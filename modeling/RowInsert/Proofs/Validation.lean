import Mathlib.Logic.Relation
import RowInsert.Proofs.Precedence

/-!
# Validators that are extended

A validator by types is made with some types, and may be extended by more, step by step.

* `TypeName.base?` is the named class that a class is derived from in the first place, and
  `Value.isInstance_iff` says that a value is an instance of the classes that its own is derived
  from in any number of steps, and of no others.
* `FirstOffender` says that a value is the first of a list that is an instance of no type of a set,
  and `AllowedTypes.check_error_iff` that it is what a check reports.
* `AllowedTypes.validate_extended` : what an extended validator answers is a matter of the set of
  all types that were named, in whatever order and in however many steps.
-/

namespace RowInsert

/-! ### Derived classes -/

namespace TypeName

/-- The named class that a class is derived from in the first place. -/
def base? : TypeName → Option TypeName
  | .object => none
  | .bool | .colour => some .int
  | .moment => some .date
  | .orderedDictionary | .defaultingDictionary => some .dictionary
  | .derivedText => some .text
  | .clause => some .node
  | .rawClause | .ruleClause => some .clause
  | _ => some .object

/-- A class is another one, or is derived from it in any number of steps. -/
def Derives : TypeName → TypeName → Prop := Relation.ReflTransGen fun t u => t.base? = some u

/-- These are a class and all that it is derived from, one after the other. -/
inductive Lineage : TypeName → List TypeName → Prop where
  | root {t : TypeName} (h : t.base? = none) : Lineage t [t]
  | derived {t u : TypeName} {l : List TypeName} (h : t.base? = some u) (rest : Lineage u l) :
      Lineage t (t :: l)

theorem derives_of_root {t u : TypeName} (h : t.base? = none) : t.Derives u ↔ u = t := by
  rw [Derives.eq_def, Relation.ReflTransGen.cases_head_iff]
  simp [h, eq_comm]

theorem derives_of_base {t b u : TypeName} (h : t.base? = some b) :
    t.Derives u ↔ u = t ∨ b.Derives u := by
  rw [Derives.eq_def, Relation.ReflTransGen.cases_head_iff, eq_comm]
  constructor
  · rintro (heq | ⟨c, hc, hrest⟩)
    · exact .inl heq
    · rw [h] at hc
      cases hc
      exact .inr hrest
  · rintro (heq | hrest)
    · exact .inl heq
    · exact .inr ⟨b, h, hrest⟩

theorem Lineage.mem_iff {t u : TypeName} {l : List TypeName} (h : Lineage t l) :
    u ∈ l ↔ t.Derives u := by
  induction h with
  | root hroot => rw [List.mem_singleton, derives_of_root hroot]
  | derived hbase _ ih => rw [List.mem_cons, ih, derives_of_base hbase]

end TypeName

/-- The class of nodes, as a named type. -/
def NodeClass.type : NodeClass → TypeName
  | .object => .object
  | .node => .node
  | .clause => .clause
  | .raw => .rawClause
  | .rule => .ruleClause

theorem NodeClass.lineage_types (c : NodeClass) : c.type.Lineage c.types := by
  cases c with
  | object => exact .root rfl
  | node => exact .derived rfl (.root rfl)
  | clause => exact .derived rfl (.derived rfl (.root rfl))
  | raw | rule => exact .derived rfl (.derived rfl (.derived rfl (.root rfl)))

namespace Value

/-- The class of a value if it is a named one, and else the first that it is derived from. -/
def nearestType : Value → TypeName
  | .null => .nullType
  | .bool _ => .bool
  | .int _ => .int
  | .float .. => .float
  | .complex .. => .complex
  | .text _ => .text
  | .derivedText .. => .derivedText
  | .colour _ => .colour
  | .bytes .constant _ _ => .bytes
  | .bytes .changeable _ _ => .changeableBytes
  | .bytes .view _ _ => .bytesView
  | .sequence .list _ _ => .list
  | .sequence .tuple _ _ => .tuple
  | .sequence .set _ _ => .set
  | .sequence .frozenSet _ _ => .frozenSet
  | .sequence .deque _ _ => .deque
  | .sequence .indexed _ _ => .indexed
  | .sequence (.bag _) _ _ => .bag
  | .mapping .plain _ _ => .dictionary
  | .mapping .ordered _ _ => .orderedDictionary
  | .mapping (.defaulting _) _ _ => .defaultingDictionary
  | .mapping .readOnly _ _ => .readOnlyMapping
  | .mapping .caseless _ _ => .caselessMap
  | .range _ => .range
  | .date _ => .date
  | .moment _ => .moment
  | .decimal .. => .decimal
  | .stream .. | .object _ => .object
  | .record cls _ _ => (cls.nodeClass?.map NodeClass.type).getD .object

theorem lineage_types (v : Value) : v.nearestType.Lineage v.types := by
  cases v with
  | bytes kind _ _ => cases kind <;> exact .derived rfl (.root rfl)
  | sequence kind _ _ => cases kind <;> exact .derived rfl (.root rfl)
  | mapping kind _ _ =>
    cases kind with
    | ordered | defaulting _ => exact .derived rfl (.derived rfl (.root rfl))
    | plain | readOnly | caseless => exact .derived rfl (.root rfl)
  | record cls _ _ =>
    simp only [nearestType, types]
    cases cls.nodeClass? with
    | none => exact .root rfl
    | some base => exact base.lineage_types
  | bool _ | derivedText _ _ | colour _ | moment _ =>
    exact .derived rfl (.derived rfl (.root rfl))
  | stream _ _ _ | object _ => exact .root rfl
  | _ => exact .derived rfl (.root rfl)

/-- **A value is an instance of what its class is derived from.** -/
theorem isInstance_iff {v : Value} {t : TypeName} :
    v.isInstance t = true ↔ v.nearestType.Derives t := by
  rw [isInstance, List.contains_iff_mem, v.lineage_types.mem_iff]

/-- A value is an instance of one of these types. -/
def IsOneOf (v : Value) (types : TypeName → Prop) : Prop :=
  ∃ t, types t ∧ v.nearestType.Derives t

end Value

/-! ### What a check reports -/

/-- The value at a place is the first that is an instance of none of these types. -/
structure FirstOffender (types : TypeName → Prop) (params : List Value) (i : Nat) (v : Value) :
    Prop where
  place : params[i]? = some v
  offends : ¬ v.IsOneOf types
  least : ∀ j < i, ∀ w, params[j]? = some w → w.IsOneOf types

namespace FirstOffender

variable {types types' : TypeName → Prop} {params : List Value} {i j : Nat} {v w : Value}

/-- Where fewer types are allowed, a list is not rejected later. -/
theorem le_of_subset (h : FirstOffender types params i v) (h' : FirstOffender types' params j w)
    (hsub : ∀ t, types t → types' t) : i ≤ j := by
  by_contra hlt
  obtain ⟨t, ht, hw⟩ := h.least j (by omega) w h'.place
  exact h'.offends ⟨t, hsub t ht, hw⟩

theorem append_left (h : FirstOffender types params i v) (more : List Value) :
    FirstOffender types (params ++ more) i v where
  place := by
    obtain ⟨hi, rfl⟩ := List.getElem?_eq_some_iff.1 h.place
    rw [List.getElem?_append_left hi, List.getElem?_eq_getElem hi]
  offends := h.offends
  least k hk x hx := by
    obtain ⟨hi, -⟩ := List.getElem?_eq_some_iff.1 h.place
    rw [List.getElem?_append_left (by omega)] at hx
    exact h.least k hk x hx

theorem append_right (h : FirstOffender types params i v) {front : List Value}
    (hfront : ∀ x ∈ front, x.IsOneOf types) :
    FirstOffender types (front ++ params) (front.length + i) v where
  place := by
    rw [List.getElem?_append_right (by omega), Nat.add_sub_cancel_left]
    exact h.place
  offends := h.offends
  least k hk x hx := by
    by_cases hlt : k < front.length
    · rw [List.getElem?_append_left hlt] at hx
      exact hfront x (List.mem_of_getElem? hx)
    · rw [List.getElem?_append_right (by omega)] at hx
      exact h.least (k - front.length) (by omega) x hx

end FirstOffender

namespace AllowedTypes

variable {a b : AllowedTypes} {params : List Value} {f : Failure}

theorem admits_iff {v : Value} : a.admits v = true ↔ v.IsOneOf (· ∈ a.names) := by
  simp only [admits, List.any_eq_true, Value.isInstance_iff, Value.IsOneOf]

theorem check_ok_iff : a.check params = .ok () ↔ ∀ v ∈ params, v.IsOneOf (· ∈ a.names) := by
  rw [check_eq_ok_iff]
  simp only [admits_iff]

/-- A check fails only for the first value that is an instance of none of the types. -/
theorem check_error_iff : a.check params = .error f ↔
    ∃ i v, FirstOffender (· ∈ a.names) params i v ∧ f = .unsupportedBinding i v.typeName := by
  have hfirst : ∀ i v, FirstOffender (· ∈ a.names) params i v →
      a.check params = .error (.unsupportedBinding i v.typeName) := by
    intro i v h
    obtain ⟨hi, rfl⟩ := List.getElem?_eq_some_iff.1 h.place
    have hfront : ∀ x ∈ params.take i, a.admits x = true := by
      intro x hx
      obtain ⟨j, hj, rfl⟩ := List.mem_take_iff_getElem.1 hx
      have hlt : j < i ∧ j < params.length := by omega
      exact admits_iff.2 (h.least j hlt.1 _ (List.getElem?_eq_getElem hlt.2))
    have hlength : (params.take i).length = i := List.length_take_of_le hi.le
    -- all that stands in front is admitted, so the check gets as far as the offender
    have hsplit : params.take i ++ params[i] :: params.drop (i + 1) = params := by
      rw [← List.drop_eq_getElem_cons hi, List.take_append_drop]
    have herror := check_eq_error (params.drop (i + 1)) hfront
      (by simpa using mt admits_iff.1 h.offends)
    rwa [hsplit, hlength] at herror
  constructor
  · intro h
    -- a check that fails has an offender, and the first one is what it reports
    rcases exists_first (fun v => a.admits v = true) params with
      hall | ⟨front, v, back, rfl, hfront, hv⟩
    · rw [check_eq_ok hall] at h
      cases h
    · have hoffender : FirstOffender (· ∈ a.names) (v :: back) 0 v :=
        ⟨rfl, mt admits_iff.2 hv, fun j hj => absurd hj (Nat.not_lt_zero j)⟩
      have hplace := hoffender.append_right fun x hx => admits_iff.1 (hfront x hx)
      rw [hfirst _ _ hplace] at h
      cases h
      exact ⟨_, v, hplace, rfl⟩
  · rintro ⟨i, v, h, rfl⟩
    exact hfirst i v h

/-- The order and the repetition of types do not matter. -/
theorem check_congr (h : ∀ t, t ∈ a.names ↔ t ∈ b.names) (params : List Value) :
    a.check params = b.check params := by
  have htypes : (· ∈ a.names) = (· ∈ b.names) := funext fun t => propext (h t)
  cases hb : b.check params with
  | ok _ =>
    rw [check_ok_iff, htypes]
    exact check_ok_iff.1 hb
  | error f =>
    rw [check_error_iff, htypes]
    exact check_error_iff.1 hb

/-! ### Extension step by step -/

/-- More types are allowed in each step. -/
def extendAll (a : AllowedTypes) (steps : List (List TypeName)) : AllowedTypes :=
  steps.foldl extend a

/-- The type was allowed in the first place, or in one of the steps. -/
def Named (a : AllowedTypes) (steps : List (List TypeName)) (t : TypeName) : Prop :=
  t ∈ a.names ∨ ∃ more ∈ steps, t ∈ more

theorem mem_names_extendAll {steps : List (List TypeName)} {t : TypeName} :
    t ∈ (a.extendAll steps).names ↔ a.Named steps t := by
  induction steps generalizing a with
  | nil => simp [extendAll, Named]
  | cons more steps ih =>
    have hstep : a.extendAll (more :: steps) = (a.extend more).extendAll steps := rfl
    rw [hstep, ih, Named, Named, mem_names_extend, or_assoc, List.exists_mem_cons_iff]

theorem types_extendAll (a : AllowedTypes) (steps : List (List TypeName)) :
    (· ∈ (a.extendAll steps).names) = a.Named steps :=
  funext fun _ => propext mem_names_extendAll

theorem validate_ok_iff {q : Query} : a.validate q = .ok q ↔ a.check q.params = .ok () := by
  unfold validate
  cases a.check q.params with
  | ok _ => exact ⟨fun _ => rfl, fun _ => rfl⟩
  | error f => exact ⟨nofun, nofun⟩

theorem validate_error_iff {q : Query} : a.validate q = .error f ↔ a.check q.params = .error f := by
  unfold validate
  cases a.check q.params with
  | ok _ => exact ⟨nofun, nofun⟩
  | error g => exact ⟨fun h => by cases h; rfl, fun h => by cases h; rfl⟩

theorem validate_congr {q : Query} (h : a.check q.params = b.check q.params) :
    a.validate q = b.validate q := by
  unfold validate
  rw [h]

theorem named_append {steps more : List (List TypeName)} {t : TypeName} (h : a.Named steps t) :
    a.Named (steps ++ more) t := by
  rcases h with h | ⟨l, hl, ht⟩
  · exact .inl h
  · exact .inr ⟨l, List.mem_append_left more hl, ht⟩

section Extended

variable {steps : List (List TypeName)} {q : Query}

theorem extendAll_ok_iff :
    (a.extendAll steps).validate q = .ok q ↔ ∀ x ∈ q.params, x.IsOneOf (a.Named steps) := by
  rw [validate_ok_iff, check_ok_iff, types_extendAll]

theorem extendAll_error_iff :
    (a.extendAll steps).validate q = .error f ↔
      ∃ i x, FirstOffender (a.Named steps) q.params i x ∧ f = .unsupportedBinding i x.typeName := by
  rw [validate_error_iff, check_error_iff, types_extendAll]

theorem offender_of_rejected {i : Nat} {t : String}
    (h : (a.extendAll steps).validate q = .error (.unsupportedBinding i t)) :
    ∃ x, FirstOffender (a.Named steps) q.params i x ∧ x.typeName = t := by
  obtain ⟨j, x, hx, heq⟩ := extendAll_error_iff.1 h
  cases heq
  exact ⟨x, hx, rfl⟩

/-- What an extension rejects was rejected before it, and no later. -/
theorem rejected_before {more : List (List TypeName)} {j : Nat} {t : String}
    (h : (a.extendAll (steps ++ more)).validate q = .error (.unsupportedBinding j t)) :
    ∃ i t', (a.extendAll steps).validate q = .error (.unsupportedBinding i t') ∧ i ≤ j := by
  obtain ⟨w, hw, -⟩ := offender_of_rejected h
  cases hbefore : (a.extendAll steps).validate q with
  | ok r =>
    obtain rfl := eq_of_validate hbefore
    obtain ⟨u, hu, hwu⟩ := extendAll_ok_iff.1 hbefore w (List.mem_of_getElem? hw.place)
    exact absurd ⟨u, named_append hu, hwu⟩ hw.offends
  | error f =>
    obtain ⟨i, x, hx, rfl⟩ := extendAll_error_iff.1 hbefore
    exact ⟨i, x.typeName, rfl, hx.le_of_subset hw fun _ => named_append⟩

end Extended

/-- **What an extended validator answers is a matter of the types that were named.**  It accepts a
query just if each bound value is an instance of one of them, and else reports the first that is
not, with its place and class.  So the order and the grouping of the types do not matter, an
extension rejects nothing that was accepted and nothing earlier than before, and of two lists the
second is looked at only if the first is accepted. -/
theorem validate_extended (a : AllowedTypes) (steps : List (List TypeName)) :
    let validate := (a.extendAll steps).validate
    (∀ q, validate q = .ok q ↔ ∀ x ∈ q.params, x.IsOneOf (a.Named steps)) ∧
    (∀ q f, validate q = .error f ↔ ∃ i x, FirstOffender (a.Named steps) q.params i x ∧
      f = .unsupportedBinding i x.typeName ∧ f.kind = .invalidBinding) ∧
    (∀ (a' : AllowedTypes) (steps' : List (List TypeName)),
      (∀ t, a.Named steps t ↔ a'.Named steps' t) → (a'.extendAll steps').validate = validate) ∧
    (∀ more q, validate q = .ok q → (a.extendAll (steps ++ more)).validate q = .ok q) ∧
    (∀ more q j t,
      (a.extendAll (steps ++ more)).validate q = .error (.unsupportedBinding j t) →
        ∃ i t', validate q = .error (.unsupportedBinding i t') ∧ i ≤ j) ∧
    ∀ sql front back,
      (∀ f, validate ⟨sql, front⟩ = .error f → validate ⟨sql, front ++ back⟩ = .error f) ∧
      (validate ⟨sql, front⟩ = .ok ⟨sql, front⟩ →
        (validate ⟨sql, back⟩ = .ok ⟨sql, back⟩ →
          validate ⟨sql, front ++ back⟩ = .ok ⟨sql, front ++ back⟩) ∧
        ∀ i t, validate ⟨sql, back⟩ = .error (.unsupportedBinding i t) →
          validate ⟨sql, front ++ back⟩ = .error (.unsupportedBinding (front.length + i) t)) := by
  intro validate
  refine ⟨fun q => extendAll_ok_iff, ?_, ?_, ?_, fun more q j t => rejected_before, ?_⟩
  · intro q f
    refine extendAll_error_iff.trans ?_
    constructor
    · rintro ⟨i, x, hx, rfl⟩
      exact ⟨i, x, hx, rfl, rfl⟩
    · rintro ⟨i, x, hx, hf, -⟩
      exact ⟨i, x, hx, hf⟩
  · intro a' steps' hsame
    funext q
    apply validate_congr
    apply check_congr
    intro t
    rw [mem_names_extendAll, mem_names_extendAll]
    exact (hsame t).symm
  · intro more q hok
    rw [extendAll_ok_iff]
    intro x hx
    obtain ⟨t, ht, hxt⟩ := extendAll_ok_iff.1 hok x hx
    exact ⟨t, named_append ht, hxt⟩
  · intro sql front back
    refine ⟨fun f hf => ?_, fun hfront => ⟨fun hback => ?_, fun i t hback => ?_⟩⟩
    · obtain ⟨i, x, hx, rfl⟩ := extendAll_error_iff.1 hf
      exact extendAll_error_iff.2 ⟨i, x, hx.append_left back, rfl⟩
    · have hfront := extendAll_ok_iff.1 hfront
      have hback := extendAll_ok_iff.1 hback
      exact extendAll_ok_iff.2 (List.forall_mem_append.2 ⟨hfront, hback⟩)
    · obtain ⟨x, hx, rfl⟩ := offender_of_rejected hback
      have hfront := extendAll_ok_iff.1 hfront
      exact extendAll_error_iff.2 ⟨_, x, hx.append_right hfront, rfl⟩

/-- Dates are bound once they are allowed, a moment among them, and then it is the list behind them
that is reported. -/
theorem validate_extended_dates :
    let params : List Value := [.bool true, .moment ⟨⟨2024, 2, 29⟩, 1, 2, 3, 0⟩, .list []]
    let q : Query := ⟨.text "", params⟩
    (standard.extendAll [[.decimal], [.date]]).validate q =
        .error (.unsupportedBinding 2 "list") ∧
      (standard.extendAll [[.date, .decimal]]).validate q =
        .error (.unsupportedBinding 2 "list") ∧
      ∃ i t, standard.validate q = .error (.unsupportedBinding i t) ∧ i ≤ 2 := by
  intro params q
  have hrejected : (standard.extendAll [[.decimal], [.date]]).validate q =
      .error (.unsupportedBinding 2 "list") := rfl
  obtain ⟨-, -, hgrouping, -, -, -⟩ := validate_extended standard [[.decimal], [.date]]
  have hsame : ∀ t, standard.Named [[.decimal], [.date]] t ↔
      standard.Named [[.date, .decimal]] t := by
    intro t
    simp [Named, or_comm]
  obtain ⟨-, -, -, -, hbefore, -⟩ := validate_extended standard []
  refine ⟨hrejected, ?_, hbefore [[.decimal], [.date]] q 2 "list" hrejected⟩
  rw [hgrouping standard _ hsame]
  exact hrejected

end AllowedTypes

end RowInsert
