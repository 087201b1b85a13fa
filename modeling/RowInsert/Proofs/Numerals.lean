import Mathlib.Algebra.Order.Ring.Nat
import RowInsert.Number.Shortest
import RowInsert.Proofs.JsonReader

/-!
# Numbers are written as numerals

* `Nat.toDigits` has no zero in front of other digits (`isDigits_toDigits`, `head?_toDigits`), so a
  whole number is written as a numeral (`Json.isNumeral_int`).
* `Shortest.decimal_ne_zero` : a number that is not zero has digits other than zero, which is what
  keeps a zero from standing first; `FloatStyle.isMagnitude_layout` goes through the four ways to
  lay digits out.
* `FloatStyle.isNumeral_text` : a finite number is written as a numeral in every style.
-/

namespace RowInsert

/-! ### Parts of numerals -/

namespace Json

theorem isDigits_iff {cs : List Char} :
    isDigits cs = true ↔ cs ≠ [] ∧ ∀ c ∈ cs, c.isDigit = true := by
  rw [isDigits, Bool.and_eq_true, bne_iff_ne, List.all_eq_true]

theorem isDigits_append {as bs : List Char} (has : isDigits as = true)
    (hbs : ∀ c ∈ bs, c.isDigit = true) : isDigits (as ++ bs) = true := by
  obtain ⟨hne, has⟩ := isDigits_iff.1 has
  exact isDigits_iff.2 ⟨List.append_ne_nil_of_left_ne_nil hne bs,
    List.forall_mem_append.2 ⟨has, hbs⟩⟩

/-- An exponent begins with a letter. -/
theorem head?_of_isExponent {cs : List Char} (h : isExponent cs = true) :
    ∀ c ∈ cs.head?, c = 'e' ∨ c = 'E' := by
  cases cs with
  | nil => simp
  | cons c cs =>
    obtain ⟨hc, -⟩ := Bool.and_eq_true_iff.1 h
    rintro d ⟨⟩
    simpa using hc

theorem isFraction_of_isExponent {cs : List Char} (h : isExponent cs = true) :
    isFraction cs = true := by
  unfold isFraction
  split
  · rcases head?_of_isExponent h '.' rfl with h | h <;> cases h
  · exact h

theorem isFraction_point {ds cs : List Char} (hds : isDigits ds = true)
    (hcs : isExponent cs = true) : isFraction ('.' :: (ds ++ cs)) = true := by
  obtain ⟨hne, hds⟩ := isDigits_iff.1 hds
  have hhead : ∀ c ∈ cs.head?, c.isDigit = false := by
    intro c hc
    rcases head?_of_isExponent hcs c hc with rfl | rfl <;> rfl
  obtain ⟨htake, hdrop⟩ := span_append hds hhead
  rw [isFraction, htake, hdrop, hcs, Bool.and_true, bne_iff_ne]
  exact hne

theorem isFraction_digits {ds : List Char} (hds : isDigits ds = true) :
    isFraction ('.' :: ds) = true := by
  have h := isFraction_point hds (rfl : isExponent [] = true)
  rwa [List.append_nil] at h

theorem head?_of_isFraction {cs : List Char} (h : isFraction cs = true) :
    ∀ c ∈ cs.head?, c.isDigit = false := by
  unfold isFraction at h
  split at h
  · rintro c ⟨⟩
    rfl
  · intro c hc
    rcases head?_of_isExponent h c hc with rfl | rfl <;> rfl

theorem isMagnitude_append {whole cs : List Char} (hwhole : isDigits whole = true)
    (hzero : whole.head? ≠ some '0' ∨ whole.length = 1) (hcs : isFraction cs = true) :
    isMagnitude (whole ++ cs) = true := by
  obtain ⟨hne, hwhole⟩ := isDigits_iff.1 hwhole
  obtain ⟨htake, hdrop⟩ := span_append hwhole (head?_of_isFraction hcs)
  simp only [isMagnitude, htake, hdrop, hcs, Bool.and_true, Bool.and_eq_true, Bool.or_eq_true,
    bne_iff_ne, beq_iff_eq]
  exact ⟨hne, hzero⟩

theorem isNumeral_of_isMagnitude {cs : List Char} (h : isMagnitude cs = true) :
    isNumeral cs = true := by
  unfold isNumeral
  split
  · cases h
  · exact h

/-! ### Whole numbers -/

theorem isDigits_toDigits (n : Nat) : isDigits (Nat.toDigits 10 n) = true :=
  isDigits_iff.2 ⟨Nat.toDigits_ne_nil,
    fun _ hc => Nat.isDigit_of_mem_toDigits (by decide) (by decide) hc⟩

/-- No number but zero begins with a zero. -/
theorem head?_toDigits {n : Nat} (hn : n ≠ 0) : (Nat.toDigits 10 n).head? ≠ some '0' := by
  induction n using Nat.strongRecOn with
  | ind n ih =>
    rw [Nat.toDigits_eq_if (by decide)]
    split_ifs with hlt
    -- only the first digit can be the whole number, and it is not zero
    · have hdigits : ∀ d < 10, d ≠ 0 → [Nat.digitChar d].head? ≠ some '0' := by decide
      exact hdigits n hlt hn
    · have hfront := ih (n / 10) (by omega) (by omega)
      rwa [List.head?_append, Option.or_of_isSome (List.isSome_head?.2 Nat.toDigits_ne_nil)]

theorem isMagnitude_toDigits (n : Nat) : isMagnitude (Nat.toDigits 10 n) = true := by
  rw [← List.append_nil (Nat.toDigits 10 n)]
  refine isMagnitude_append (isDigits_toDigits n) ?_ rfl
  by_cases hn : n = 0
  · subst hn
    exact .inr rfl
  · exact .inl (head?_toDigits hn)

theorem isNumeral_int (n : Int) : isNumeral (toString n).toList = true := by
  cases n with
  | ofNat n =>
    have htext : (toString (Int.ofNat n)).toList = Nat.toDigits 10 n := String.toList_ofList
    rw [htext]
    exact isNumeral_of_isMagnitude (isMagnitude_toDigits n)
  | negSucc n =>
    have htext : (toString (Int.negSucc n)).toList = '-' :: Nat.toDigits 10 (n + 1) := by
      change ("-" ++ String.ofList (Nat.toDigits 10 (n + 1))).toList = _
      exact String.toList_append.trans (congrArg ("-".toList ++ ·) String.toList_ofList)
    rw [htext]
    exact isMagnitude_toDigits (n + 1)

end Json

/-! ### Shortest decimals -/

namespace Shortest

theorem Interval.ne_zero_of_pick {i : Interval} {k : Int} {d : Nat} (h : i.pick k = some d) :
    d ≠ 0 := by
  unfold pick at h
  dsimp only at h
  split at h
  · rename_i hbelow _
    have hne := bne_iff_ne.1 (Bool.and_eq_true_iff.1 hbelow).1
    split_ifs at h <;> cases h
    · exact hne
    · exact Nat.succ_ne_zero _
    · exact hne
    · exact Nat.succ_ne_zero _
  · rename_i hbelow _
    cases h
    exact bne_iff_ne.1 (Bool.and_eq_true_iff.1 hbelow).1
  · cases h
    exact Nat.succ_ne_zero _
  · cases h

theorem search_ne_zero {i : Interval} (hi : i.centre ≠ 0) (fuel : Nat) (k : Int) :
    (search i fuel k).1 ≠ 0 := by
  induction fuel generalizing k with
  | zero => exact hi
  | succ fuel ih =>
    rw [search]
    cases hpick : i.pick k with
    | none => exact ih (k - 1)
    | some d => exact Interval.ne_zero_of_pick hpick

theorem decimal_ne_zero {x : Binary64} (h : x.isZero = false) : (decimal x).1 ≠ 0 := by
  refine search_ne_zero ?_ 24 _
  have hsignificand : x.significand ≠ 0 := by
    unfold Binary64.significand
    split_ifs with hexponent
    · intro hfraction
      simp [Binary64.isZero, hexponent, hfraction] at h
    · exact Nat.ne_of_gt (Nat.add_pos_left (by decide) _)
  exact Nat.mul_ne_zero (by decide) hsignificand

end Shortest

/-! ### Layouts -/

namespace FloatStyle

open Json

theorem isExponent_exponentText (e : Int) : isExponent (exponentText e).toList = true := by
  have hdigits : isDigits (if (toString e.natAbs).length < 2 then "0" ++ toString e.natAbs
      else toString e.natAbs).toList = true := by
    have htext : (toString e.natAbs).toList = Nat.toDigits 10 e.natAbs := String.toList_ofList
    split_ifs
    · rw [String.toList_append, htext]
      exact isDigits_append (by decide) (isDigits_iff.1 (isDigits_toDigits _)).2
    · rw [htext]
      exact isDigits_toDigits _
  unfold exponentText
  dsimp only
  generalize (if (toString e.natAbs).length < 2 then "0" ++ toString e.natAbs
    else toString e.natAbs) = written at hdigits ⊢
  have hsign {sign : Char} (hsign : sign = '-' ∨ sign = '+') :
      isExponent ('e' :: sign :: written.toList) = true := by
    rcases hsign with rfl | rfl <;> exact hdigits
  rw [String.toList_append]
  split_ifs
  · exact hsign (.inl rfl)
  · exact hsign (.inr rfl)

theorem isMagnitude_layout (style : FloatStyle) {d : Nat} (hd : d ≠ 0) (k : Int) :
    isMagnitude (style.layout d k).toList = true := by
  obtain ⟨digits, hdigits⟩ : ∃ digits, digits = Nat.toDigits 10 d := ⟨_, rfl⟩
  obtain ⟨hne, hall⟩ : digits ≠ [] ∧ ∀ c ∈ digits, c.isDigit = true :=
    isDigits_iff.1 (hdigits ▸ isDigits_toDigits d)
  have hhead : digits.head? ≠ some '0' := hdigits ▸ head?_toDigits hd
  have hzeros (n : Nat) : ∀ c ∈ List.replicate n '0', c.isDigit = true := fun c hc =>
    List.eq_of_mem_replicate hc ▸ rfl
  have hfirst {n : Nat} (hn : n ≠ 0) :
      isDigits (digits.take n) = true ∧ (digits.take n).head? ≠ some '0' :=
    ⟨isDigits_iff.2 ⟨by simp [hn, hne], fun c hc => hall c (List.mem_of_mem_take hc)⟩,
      by rwa [List.head?_take, if_neg hn]⟩
  have hpadded (n : Nat) : isDigits (digits ++ List.replicate n '0') = true ∧
      (digits ++ List.replicate n '0').head? ≠ some '0' :=
    ⟨isDigits_append (isDigits_iff.2 ⟨hne, hall⟩) (hzeros n),
      by rwa [List.head?_append, Option.or_of_isSome (List.isSome_head?.2 hne)]⟩
  have hexponent := isExponent_exponentText ((digits.length : Int) + k - 1)
  have hjoined {text : String} {whole cs : List Char} (htext : text.toList = whole ++ cs)
      (hwhole : isDigits whole = true) (hzero : whole.head? ≠ some '0' ∨ whole.length = 1)
      (hcs : isFraction cs = true) : isMagnitude text.toList = true :=
    htext ▸ isMagnitude_append hwhole hzero hcs
  unfold layout
  rw [← hdigits]
  dsimp only
  -- below one; whole, with and without a fraction; a point among the digits; and one digit or
  -- several with an exponent
  split_ifs with hrange hpoint hwhole hkeeps hempty
  · have hfraction : isDigits (List.replicate (-((digits.length : Int) + k)).toNat '0' ++ digits) =
        true :=
      isDigits_iff.2 ⟨by simp [hne], List.forall_mem_append.2 ⟨hzeros _, hall⟩⟩
    refine hjoined ?_ (by decide : isDigits ['0'] = true) (.inr rfl) (isFraction_digits hfraction)
    simp
  · obtain ⟨hdigits, hzero⟩ := hpadded (((digits.length : Int) + k).toNat - digits.length)
    refine hjoined ?_ hdigits (.inl hzero)
      (isFraction_digits (by decide : isDigits ['0'] = true))
    simp
  · obtain ⟨hdigits, hzero⟩ := hpadded (((digits.length : Int) + k).toNat - digits.length)
    refine hjoined ?_ hdigits (.inl hzero) (rfl : isFraction [] = true)
    simp
  · obtain ⟨hdigits, hzero⟩ := hfirst (n := ((digits.length : Int) + k).toNat) (by omega)
    have hrest : isDigits (digits.drop ((digits.length : Int) + k).toNat) = true :=
      isDigits_iff.2 ⟨fun hnil => by rw [List.drop_eq_nil_iff] at hnil; omega,
        fun c hc => hall c (List.mem_of_mem_drop hc)⟩
    refine hjoined ?_ hdigits (.inl hzero) (isFraction_digits hrest)
    simp
  · obtain ⟨hdigits, hzero⟩ := hfirst one_ne_zero
    refine hjoined ?_ hdigits (.inl hzero) (isFraction_of_isExponent hexponent)
    simp
  · obtain ⟨hdigits, hzero⟩ := hfirst one_ne_zero
    have hrest : isDigits (digits.drop 1) = true :=
      isDigits_iff.2 ⟨fun hnil => hempty (List.isEmpty_iff.2 hnil),
        fun c hc => hall c (List.mem_of_mem_drop hc)⟩
    refine hjoined ?_ hdigits (.inl hzero) (isFraction_point hrest hexponent)
    simp

/-- **A finite number is written as a numeral** in every style. -/
theorem isNumeral_text (style : FloatStyle) {x : Binary64} (hx : x.isFinite = true) :
    isNumeral (style.text x).toList = true := by
  have hmagnitude : isMagnitude (style.magnitudeText x).toList = true := by
    have hfield : (x.exponentField == 2047) = false := beq_false_of_ne (bne_iff_ne.1 hx)
    have hnan : x.isNaN = false := by rw [Binary64.isNaN, hfield, Bool.false_and]
    have hinfinite : x.isInfinite = false := by rw [Binary64.isInfinite, hfield, Bool.false_and]
    unfold magnitudeText
    rw [hnan, hinfinite, if_neg Bool.false_ne_true, if_neg Bool.false_ne_true]
    split_ifs with hzero
    · decide
    · decide
    · exact isMagnitude_layout style (Shortest.decimal_ne_zero (Bool.eq_false_iff.2 hzero)) _
  unfold text
  rw [String.toList_append]
  split_ifs
  · exact hmagnitude
  · exact isNumeral_of_isMagnitude hmagnitude

end FloatStyle

end RowInsert
