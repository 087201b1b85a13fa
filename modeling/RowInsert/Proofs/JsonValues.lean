import Mathlib.Data.String.Basic
import RowInsert.Proofs.Numerals
import RowInsert.Proofs.Sorting

/-!
# JSON documents of values

* `Json.hasNumbers_of_ofValueIn` : whatever document a value has, its tokens are those of numbers,
  so that it is written in printable ASCII alone (`Json.isPrintable_lineUnless`).
* `Value.IsData` are the values that JSON has forms for, and `Json.Denotes` says which document
  stands for such a value: the members of an object are in the order of their names, and those
  alone tell it from the dictionary.
* `Value.IsData.exists_document` : every such value has a document that stands for it, and the
  document is one that is read back.
-/

namespace RowInsert

/-! ### Printable characters -/

namespace Json

/-- Whether a character is one of the printable ones of ASCII. -/
def isPrintable (c : Char) : Bool := ' ' ≤ c && c ≤ '~'

theorem isPrintable_unitEscape (n : Nat) : ∀ c ∈ unitEscape n, isPrintable c = true := by
  have hdigits : ∀ d < 16, isPrintable (Nat.digitChar d) = true := by decide
  refine List.forall_mem_cons.2 ⟨rfl, List.forall_mem_cons.2 ⟨rfl, fun c hc => ?_⟩⟩
  obtain ⟨i, -, rfl⟩ := List.mem_map.1 hc
  exact hdigits _ (Nat.mod_lt _ (by decide))

theorem isPrintable_escape (c : Char) : ∀ d ∈ escape c, isPrintable d = true := by
  have hpair {d : Char} (hd : isPrintable d = true) : ∀ x ∈ ['\\', d], isPrintable x = true :=
    List.forall_mem_cons.2 ⟨rfl, List.forall_mem_singleton.2 hd⟩
  unfold escape
  split_ifs with h₁ h₂ h₃ h₄ h₅ h₆ h₇
  · exact hpair (by rcases h₁ with rfl | rfl <;> rfl)
  iterate 5 exact hpair rfl
  · exact List.forall_mem_singleton.2
      (Bool.and_eq_true_iff.2 ⟨decide_eq_true h₇.1, decide_eq_true h₇.2⟩)
  · intro d hd
    obtain ⟨n, -, hd⟩ := List.mem_flatMap.1 hd
    exact isPrintable_unitEscape n d hd

theorem isPrintable_renderText (s : String) : ∀ c ∈ renderText s, isPrintable c = true := by
  refine List.forall_mem_append.2 ⟨List.forall_mem_cons.2 ⟨rfl, fun c hc => ?_⟩,
    List.forall_mem_singleton.2 rfl⟩
  obtain ⟨d, -, hc⟩ := List.mem_flatMap.1 hc
  exact isPrintable_escape d c hc

theorem forall_mem_intercalate {α : Type} {p : Char → Bool} {write : α → List Char} {xs : List α}
    (hcomma : p ',' = true) (h : ∀ x ∈ xs, ∀ c ∈ write x, p c = true) :
    ∀ c ∈ [','].intercalate (xs.map write), p c = true := by
  induction xs with
  | nil => simp
  | cons x xs ih =>
    obtain ⟨hx, hxs⟩ := List.forall_mem_cons.1 h
    cases xs with
    | nil =>
      rw [List.map_singleton, List.intercalate_singleton]
      exact hx
    | cons y xs =>
      rw [intercalate_map_cons_cons]
      exact List.forall_mem_append.2 ⟨hx, List.forall_mem_cons.2 ⟨hcomma, ih hxs⟩⟩

theorem isPrintable_render {j : Json}
    (h : j.HasNumbers fun token => ∀ c ∈ token.toList, isPrintable c = true) :
    ∀ c ∈ j.render, isPrintable c = true := by
  induction h with
  | null => exact List.all_eq_true.1 rfl
  | bool b => cases b <;> exact List.all_eq_true.1 rfl
  | number h => exact h
  | text s => exact isPrintable_renderText s
  | array _ ih =>
    rw [render, renderItems_eq]
    exact List.forall_mem_append.2 ⟨List.forall_mem_cons.2 ⟨rfl, forall_mem_intercalate rfl ih⟩,
      List.forall_mem_singleton.2 rfl⟩
  | object _ ih =>
    rw [render, renderMembers_eq]
    refine List.forall_mem_append.2 ⟨List.forall_mem_cons.2 ⟨rfl, forall_mem_intercalate rfl ?_⟩,
      List.forall_mem_singleton.2 rfl⟩
    exact fun m hm => List.forall_mem_append.2 ⟨isPrintable_renderText m.1,
      List.forall_mem_cons.2 ⟨rfl, ih m hm⟩⟩

/-! ### Documents of values -/

section Tokens

variable {P : String → Prop} {refusal : Identity → Option Failure}

theorem of_unlessWithin_ok {outer : List Identity} {i : Identity} {document : Except Failure Json}
    {j : Json} (h : unlessWithin outer i document = .ok j) : document = .ok j := by
  unfold unlessWithin at h
  exact (guard_ok h).2

theorem of_ofOrdered_ok {f : Option Failure} {entries : List (Value × Except Failure Json)}
    {j : Json} (h : ofOrdered f entries = .ok j) : ofMembers entries = .ok j := by
  unfold ofOrdered at h
  split at h
  · cases h
  · exact h

/-- The values of an object's members are documents of those that it was made of. -/
theorem mem_of_ofMembers {entries : List (Value × Except Failure Json)} {j : Json}
    (h : ofMembers entries = .ok j) :
    ∃ members, j = .object members ∧ ∀ m ∈ members, ∃ key, (key, .ok m.2) ∈ entries := by
  obtain ⟨sorted, hsorted, h⟩ := bind_ok h
  obtain ⟨members, hmembers, h⟩ := bind_ok h
  cases h
  refine ⟨members, rfl, fun m hm => ?_⟩
  obtain ⟨⟨key, document⟩, hmem, hm⟩ := exists_mem_of_forall₂ (mapM_ok_iff.1 hmembers) hm
  obtain ⟨name, -, hm⟩ := bind_ok hm
  obtain ⟨x, rfl, hm⟩ := bind_ok hm
  cases hm
  exact ⟨key, (sortKeyed_perm hsorted).mem_iff.1 hmem⟩

/-- Every number is written in a way that satisfies `P`. -/
structure Allows (P : String → Prop) : Prop where
  int : ∀ n : Int, P (toString n)
  float : ∀ x : Binary64, P (FloatStyle.json.text x)

mutual

/-- The tokens of a document are those of numbers. -/
theorem hasNumbers_of_ofValueIn (hP : Allows P) (outer : List Identity) :
    ∀ (v : Value) {j : Json}, ofValueIn refusal outer v = .ok j → j.HasNumbers P
  | .null, _, h => by
    cases h
    exact .null
  | .bool b, _, h => by
    cases h
    exact .bool b
  | .int n, _, h => by
    cases h
    exact .number (hP.int n)
  | .colour c, _, h => by
    cases h
    exact .number (hP.int c.number)
  | .float x _, _, h => by
    cases h
    exact .number (hP.float x)
  | .text t, _, h | .derivedText t _, _, h => by
    cases h
    exact .text t
  | .sequence kind i items, _, h => by
    have hitems {js : List Json} (hjs : ofItems refusal (i :: outer) items = .ok js) :=
      hasNumbers_of_ofItems hP (i :: outer) items hjs
    cases kind with
    | list | tuple =>
      unfold ofValueIn at h
      obtain ⟨js, hjs, h⟩ := bind_ok (of_unlessWithin_ok h)
      cases h
      exact .array (hitems hjs)
    | _ =>
      obtain ⟨t, -, h⟩ := bind_ok h
      cases h
      exact .text t
  | .mapping kind i entries, j, h => by
    have hentries (key : Value) (x : Json) :=
      hasNumbers_of_ofEntries hP (i :: outer) entries key x
    have hmembers (hj : ofMembers (ofEntries refusal (i :: outer) entries) = .ok j) :
        j.HasNumbers P := by
      obtain ⟨members, rfl, hmembers⟩ := mem_of_ofMembers hj
      refine .object fun m hm => ?_
      obtain ⟨key, hkey⟩ := hmembers m hm
      exact hentries key m.2 hkey
    unfold ofValueIn at h
    cases kind with
    | plain | defaulting => exact hmembers (of_unlessWithin_ok h)
    | ordered => exact hmembers (of_ofOrdered_ok (of_unlessWithin_ok h))
    | readOnly | caseless =>
      obtain ⟨t, -, h⟩ := bind_ok h
      cases h
      exact .text t
  | .complex .., _, h | .bytes .., _, h | .range _, _, h | .stream .., _, h | .date _, _, h
  | .moment _, _, h | .decimal .., _, h | .object _, _, h | .record .., _, h => by
    obtain ⟨t, -, h⟩ := bind_ok h
    cases h
    exact .text t

theorem hasNumbers_of_ofItems (hP : Allows P) (outer : List Identity) :
    ∀ (items : List Value) {js : List Json}, ofItems refusal outer items = .ok js →
      ∀ j ∈ js, j.HasNumbers P
  | [], _, h => by
    cases h
    exact List.forall_mem_nil _
  | x :: xs, _, h => by
    obtain ⟨j, hj, h⟩ := bind_ok h
    obtain ⟨js, hjs, h⟩ := bind_ok h
    cases h
    exact List.forall_mem_cons.2
      ⟨hasNumbers_of_ofValueIn hP outer x hj, hasNumbers_of_ofItems hP outer xs hjs⟩

theorem hasNumbers_of_ofEntries (hP : Allows P) (outer : List Identity) :
    ∀ (entries : List (Value × Value)) (key : Value) (j : Json),
      (key, .ok j) ∈ ofEntries refusal outer entries → j.HasNumbers P
  | [], _, _, h => by cases h
  | (k, v) :: es, key, j, h => by
    unfold ofEntries at h
    rcases List.mem_cons.1 h with h | h
    · exact hasNumbers_of_ofValueIn hP outer v (Prod.mk.inj h).2.symm
    · exact hasNumbers_of_ofEntries hP outer es key j h

end

end Tokens

theorem isPrintable_of_isTokenChar {c : Char} (h : isTokenChar c = true) :
    isPrintable c = true := by
  have hbetween (a b : Char) (ha : ' ' ≤ a) (hb : b ≤ '~') (h : a ≤ c ∧ c ≤ b) :
      isPrintable c = true :=
    Bool.and_eq_true_iff.2
      ⟨decide_eq_true (Char.le_trans ha h.1), decide_eq_true (Char.le_trans h.2 hb)⟩
  have hboth {p q : Prop} [Decidable p] [Decidable q] (h : (decide p && decide q) = true) : p ∧ q :=
    of_decide_eq_true ((Bool.decide_and p q).trans h)
  simp only [isTokenChar, Char.isAlphanum, Bool.or_eq_true, beq_iff_eq] at h
  rcases h with (((h | h) | rfl) | rfl) | rfl
  · rcases Bool.or_eq_true_iff.1 h with hupper | hlower
    · exact hbetween 'A' 'Z' (by decide) (by decide) (of_decide_eq_true hupper)
    · exact hbetween 'a' 'z' (by decide) (by decide) (hboth hlower)
  · exact hbetween '0' '9' (by decide) (by decide) (hboth h)
  all_goals rfl

theorem isPrintable_of_isNumeral {cs : List Char} (h : isNumeral cs = true) :
    ∀ c ∈ cs, isPrintable c = true := fun c hc =>
  isPrintable_of_isTokenChar (isTokenChar_of_isNumeral h c hc)

theorem isPrintable_text (x : Binary64) :
    ∀ c ∈ (FloatStyle.json.text x).toList, isPrintable c = true := by
  cases hfinite : x.isFinite with
  | true => exact isPrintable_of_isNumeral (FloatStyle.isNumeral_text .json hfinite)
  | false =>
    have hname : FloatStyle.json.magnitudeText x ∈ ["NaN", "Infinity"] := by
      have hfield : (x.exponentField == 2047) = true := by
        rw [beq_iff_eq]
        simpa [Binary64.isFinite] using hfinite
      unfold FloatStyle.magnitudeText
      cases hfraction : x.fractionField == 0 with
      | true => simp [Binary64.isNaN, Binary64.isInfinite, bne, hfield, hfraction, FloatStyle.json]
      | false => simp [Binary64.isNaN, bne, hfield, hfraction, FloatStyle.json]
    have hnames : ∀ name ∈ ["NaN", "Infinity"], ∀ c ∈ name.toList, isPrintable c = true :=
      List.forall_mem_cons.2 ⟨List.all_eq_true.1 rfl,
        List.forall_mem_singleton.2 (List.all_eq_true.1 rfl)⟩
    unfold FloatStyle.text
    rw [String.toList_append]
    refine List.forall_mem_append.2 ⟨?_, hnames _ hname⟩
    split_ifs <;> exact List.all_eq_true.1 rfl

theorem allows_isPrintable :
    Allows fun token => ∀ c ∈ token.toList, isPrintable c = true where
  int n := isPrintable_of_isNumeral (isNumeral_int n)
  float := isPrintable_text

/-- **Whatever a value is logged as is a single line** of printable ASCII. -/
theorem isPrintable_lineUnless {refusal : Identity → Option Failure} {v : Value} {message : String}
    (h : lineUnless refusal v = .ok message) : ∀ c ∈ message.toList, isPrintable c = true := by
  unfold lineUnless at h
  cases hdocument : ofValueIn refusal [] v with
  | error f =>
    rw [hdocument] at h
    cases h
  | ok j =>
    rw [hdocument] at h
    cases h
    rw [String.toList_ofList]
    exact isPrintable_render (hasNumbers_of_ofValueIn allows_isPrintable [] v hdocument)

end Json

/-! ### Data -/

/-- The value is made of nulls, truth values, whole numbers, finite numbers, texts, lists and
dictionaries whose keys are texts, none of them inside itself or inside those of the given
identities. -/
inductive Value.IsData : List Identity → Value → Prop
  | null {outer : List Identity} : IsData outer .null
  | bool {outer : List Identity} (b : Bool) : IsData outer (.bool b)
  | int {outer : List Identity} (n : Int) : IsData outer (.int n)
  | float {outer : List Identity} {x : Binary64} (i : Identity) (h : x.isFinite = true) :
    IsData outer (.float x i)
  | text {outer : List Identity} {v : Value} {t : String} (h : v.text? = some t) : IsData outer v
  | list {outer : List Identity} {i : Identity} {items : List Value} (hi : i = 0 ∨ i ∉ outer)
    (h : ∀ v ∈ items, IsData (i :: outer) v) : IsData outer (.sequence .list i items)
  | dictionary {outer : List Identity} {i : Identity} {entries : List (Value × Value)}
    {names : List String} (hi : i = 0 ∨ i ∉ outer)
    (hkeys : entries.map (fun e => e.1.text?) = names.map some) (hnames : names.Nodup)
    (h : ∀ e ∈ entries, IsData (i :: outer) e.2) : IsData outer (.mapping .plain i entries)

namespace Json

/-- The document stands for the value. -/
inductive Denotes : Json → Value → Prop
  | null : Denotes .null .null
  | bool (b : Bool) : Denotes (.bool b) (.bool b)
  | int (n : Int) : Denotes (.number (toString n)) (.int n)
  | float (x : Binary64) (i : Identity) : Denotes (.number (FloatStyle.json.text x)) (.float x i)
  | text {v : Value} {t : String} (h : v.text? = some t) : Denotes (.text t) v
  | list {documents : List Json} {items : List Value} (i : Identity)
    (hlength : documents.length = items.length)
    (h : ∀ p ∈ documents.zip items, Denotes p.1 p.2) :
    Denotes (.array documents) (.sequence .list i items)
  | dictionary {members : List (String × Json)} {entries sorted : List (Value × Value)}
    (i : Identity) (hsorted : members.Pairwise fun m m' => m.1 < m'.1)
    (hperm : sorted.Perm entries)
    (hkeys : sorted.map (fun e => e.1.text?) = members.map fun m => some m.1)
    (h : ∀ p ∈ members.zip sorted, Denotes p.1.2 p.2.2) :
    Denotes (.object members) (.mapping .plain i entries)

variable {refusal : Identity → Option Failure}

theorem exists_forall₂ {α β : Type} {R : α → β → Prop} {l : List α} (h : ∀ a ∈ l, ∃ b, R a b) :
    ∃ r, List.Forall₂ R l r := by
  induction l with
  | nil => exact ⟨[], .nil⟩
  | cons a l ih =>
    obtain ⟨⟨b, hb⟩, hl⟩ := List.forall_mem_cons.1 h
    obtain ⟨r, hr⟩ := ih hl
    exact ⟨b :: r, .cons hb hr⟩

theorem unlessWithin_eq {outer : List Identity} {i : Identity} (hi : i = 0 ∨ i ∉ outer)
    (document : Except Failure Json) : unlessWithin outer i document = document := by
  unfold unlessWithin
  rw [if_neg]
  rw [Bool.and_eq_true, bne_iff_ne, List.contains_iff_mem]
  rintro ⟨hne, hmem⟩
  exact hi.elim hne fun h => h hmem

theorem ofItems_eq (outer : List Identity) (items : List Value) :
    ofItems refusal outer items = items.mapM (ofValueIn refusal outer) := by
  induction items with
  | nil => rfl
  | cons x xs ih =>
    rw [ofItems, ih, List.mapM_cons]

theorem ofEntries_eq (outer : List Identity) (entries : List (Value × Value)) :
    ofEntries refusal outer entries =
      entries.map fun e => (e.1, ofValueIn refusal outer e.2) := by
  induction entries with
  | nil => rfl
  | cons e es ih =>
    obtain ⟨k, v⟩ := e
    rw [ofEntries, ih]
    rfl

/-- What a value comes to is a document that is read back and stands for the value. -/
def IsDocumentOf (document : Except Failure Json) (v : Value) (j : Json) : Prop :=
  document = .ok j ∧ j.IsNumeric ∧ j.Denotes v

theorem exists_array {outer : List Identity} {i : Identity} {items : List Value}
    (hi : i = 0 ∨ i ∉ outer)
    (h : ∀ v ∈ items, ∃ j, IsDocumentOf (ofValueIn refusal (i :: outer) v) v j) :
    ∃ j, IsDocumentOf (ofValueIn refusal outer (.sequence .list i items)) (.sequence .list i items)
      j := by
  obtain ⟨documents, hdocuments⟩ := exists_forall₂ h
  refine ⟨.array documents, ?_, .array fun j hj => ?_, .list i hdocuments.length_eq.symm ?_⟩
  · rw [ofValueIn, unlessWithin_eq hi, ofItems_eq,
      mapM_ok_iff.2 (hdocuments.imp fun _ _ hj => hj.1)]
    rfl
  · obtain ⟨v, -, hj⟩ := exists_mem_of_forall₂ hdocuments hj
    exact hj.2.1
  · rintro ⟨j, v⟩ hp
    exact (List.forall₂_zip hdocuments.flip hp).2.2

/-- The order that entries are sorted in if all keys are texts. -/
def keyLE {α : Type} (a b : Value × α) : Bool := a.1.text?.getD "" ≤ b.1.text?.getD ""

theorem keyLE_trans {α : Type} (a b c : Value × α) (hab : keyLE a b = true)
    (hbc : keyLE b c = true) : keyLE a c = true :=
  decide_eq_true (le_trans (of_decide_eq_true hab) (of_decide_eq_true hbc))

theorem keyLE_total {α : Type} (a b : Value × α) : (keyLE a b || keyLE b a) = true := by
  rw [Bool.or_eq_true]
  exact (le_total (a.1.text?.getD "") (b.1.text?.getD "")).imp decide_eq_true decide_eq_true

theorem sortKeyed_of_texts {α : Type} {entries : List (Value × α)}
    (h : ∀ e ∈ entries, e.1.isText = true) :
    sortKeyed entries = .ok (entries.mergeSort keyLE) :=
  if_pos (List.all_eq_true.2 h)

/-- Keys that are different texts are in increasing order once they are sorted. -/
theorem pairwise_lt_mergeSort {α : Type} {entries : List (Value × α)} {names : List String}
    (hkeys : entries.map (fun e => e.1.text?) = names.map some) (hnames : names.Nodup) :
    ((entries.mergeSort keyLE).map fun e => e.1.text?.getD "").Pairwise (· < ·) := by
  have hperm := (List.mergeSort_perm entries keyLE).map fun e => e.1.text?.getD ""
  have hnames' : entries.map (fun e => e.1.text?.getD "") = names := by
    have h := congrArg (List.map fun t : Option String => t.getD "") hkeys
    simpa [Function.comp_def] using h
  have hle : ((entries.mergeSort keyLE).map fun e => e.1.text?.getD "").Pairwise (· ≤ ·) :=
    List.pairwise_map.2 ((List.pairwise_mergeSort keyLE_trans keyLE_total entries).imp
      fun h => of_decide_eq_true h)
  rw [hnames'] at hperm
  exact hle.imp₂ (fun _ _ => lt_of_le_of_ne) (hperm.nodup_iff.2 hnames)

theorem memberName_of_text? {key : Value} {t : String} (h : key.text? = some t) :
    memberName key = .ok t := by
  cases key <;> cases h <;> rfl

/-- Entries that are named by texts make an object, in the order of the texts. -/
theorem ofMembers_ofEntries {outer : List Identity} {entries : List (Value × Value)}
    {members : List (String × Json)}
    (h : List.Forall₂ (fun e m => e.1.text? = some m.1 ∧ ofValueIn refusal outer e.2 = .ok m.2)
      (entries.mergeSort keyLE) members) :
    ofMembers (ofEntries refusal outer entries) = .ok (.object members) := by
  -- the sort looks at keys only, so the values may be read before or after it
  have hsorted : sortKeyed (ofEntries refusal outer entries) =
      .ok ((entries.mergeSort keyLE).map fun e => (e.1, ofValueIn refusal outer e.2)) := by
    rw [ofEntries_eq, sortKeyed_of_texts]
    · exact congrArg Except.ok (List.map_mergeSort (r := keyLE) (s := keyLE)
        (f := fun e => (e.1, ofValueIn refusal outer e.2)) fun _ _ _ _ => rfl).symm
    · intro e he
      obtain ⟨e', he', rfl⟩ := List.mem_map.1 he
      obtain ⟨m, -, hname, -⟩ := exists_mem_of_forall₂ h.flip (List.mem_mergeSort.2 he')
      exact Option.isSome_iff_exists.2 ⟨m.1, hname⟩
  have hnamed : ((entries.mergeSort keyLE).map fun e => (e.1, ofValueIn refusal outer e.2)).mapM
      (fun e => do return (← memberName e.1, ← e.2)) = .ok members := by
    refine mapM_ok_iff.2 (List.forall₂_map_left_iff.2 (h.imp fun e m hm => ?_))
    dsimp only
    rw [memberName_of_text? hm.1, hm.2]
    rfl
  unfold ofMembers
  rw [hsorted]
  exact congrArg (fun named : Except Failure (List (String × Json)) => do
    return Json.object (← named)) hnamed

theorem exists_object {outer : List Identity} {i : Identity} {entries : List (Value × Value)}
    {names : List String} (hi : i = 0 ∨ i ∉ outer)
    (hkeys : entries.map (fun e => e.1.text?) = names.map some) (hnames : names.Nodup)
    (h : ∀ e ∈ entries, ∃ j, IsDocumentOf (ofValueIn refusal (i :: outer) e.2) e.2 j) :
    ∃ j, IsDocumentOf (ofValueIn refusal outer (.mapping .plain i entries))
      (.mapping .plain i entries) j := by
  obtain ⟨sorted, hsorted⟩ : ∃ sorted, sorted = entries.mergeSort keyLE := ⟨_, rfl⟩
  have hperm : sorted.Perm entries := hsorted ▸ List.mergeSort_perm entries keyLE
  have hmember : ∀ e ∈ sorted, ∃ m : String × Json, e.1.text? = some m.1 ∧
      IsDocumentOf (ofValueIn refusal (i :: outer) e.2) e.2 m.2 := by
    intro e he
    have he := hperm.mem_iff.1 he
    have hmem : e.1.text? ∈ names.map some := hkeys ▸ List.mem_map_of_mem he
    obtain ⟨name, -, hname⟩ := List.mem_map.1 hmem
    obtain ⟨j, hj⟩ := h e he
    exact ⟨(name, j), hname.symm, hj⟩
  obtain ⟨members, hmembers⟩ := exists_forall₂ hmember
  have hsame : sorted.map (fun e => e.1.text?) = members.map fun m => some m.1 :=
    List.forall₂_eq_eq_eq ▸ List.forall₂_map_left_iff.2
      (List.forall₂_map_right_iff.2 (hmembers.imp fun _ _ hm => hm.1))
  refine ⟨.object members, ?_, .object fun m hm => ?_, .dictionary i ?_ hperm hsame ?_⟩
  · rw [ofValueIn, unlessWithin_eq hi]
    exact ofMembers_ofEntries (hsorted ▸ hmembers.imp fun _ _ hm => ⟨hm.1, hm.2.1⟩)
  · obtain ⟨e, -, -, hm⟩ := exists_mem_of_forall₂ hmembers hm
    exact hm.2.1
  -- the names of the members are the texts of the sorted keys, which are all different
  · have hnames := pairwise_lt_mergeSort hkeys hnames
    have hmap := congrArg (List.map fun t : Option String => t.getD "") hsame
    simp only [List.map_map, Function.comp_def, Option.getD_some] at hmap
    rw [← hsorted, hmap] at hnames
    exact List.pairwise_map.1 hnames
  · rintro ⟨m, e⟩ hp
    exact (List.forall₂_zip hmembers.flip hp).2.2.2

end Json

/-- **Every value that JSON has forms for has a document that stands for it,** and the document is
one that is read back. -/
theorem Value.IsData.exists_document {outer : List Identity} {v : Value} (h : v.IsData outer)
    (refusal : Identity → Option Failure) :
    ∃ j, Json.IsDocumentOf (Json.ofValueIn refusal outer v) v j := by
  induction h with
  | null => exact ⟨.null, rfl, .null, .null⟩
  | bool b => exact ⟨.bool b, rfl, .bool b, .bool b⟩
  | int n => exact ⟨_, rfl, .number (Json.isNumeral_int n), .int n⟩
  | @float _ x i h => exact ⟨_, rfl, .number (FloatStyle.isNumeral_text .json h), .float x i⟩
  | @text _ v t h =>
    cases v with
    | text s | derivedText s i => exact ⟨.text s, rfl, .text s, .text rfl⟩
    | _ => cases h
  | list hi _ ih => exact Json.exists_array hi ih
  | dictionary hi hkeys hnames _ ih => exact Json.exists_object hi hkeys hnames ih

/-- What is inside of more containers may be inside of fewer. -/
theorem Value.IsData.mono {outer outer' : List Identity} {v : Value} (h : v.IsData outer)
    (houter : ∀ i ∈ outer', i = 0 ∨ i ∈ outer) : v.IsData outer' := by
  have hfree {outer outer' : List Identity} {i : Identity} (hi : i = 0 ∨ i ∉ outer)
      (houter : ∀ i ∈ outer', i = 0 ∨ i ∈ outer) : i = 0 ∨ i ∉ outer' := by
    by_cases hzero : i = 0
    · exact .inl hzero
    · exact .inr fun hmem => (houter i hmem).elim hzero (hi.resolve_left hzero)
  have hinside {outer outer' : List Identity} {i : Identity}
      (houter : ∀ i ∈ outer', i = 0 ∨ i ∈ outer) : ∀ j ∈ i :: outer', j = 0 ∨ j ∈ i :: outer :=
    List.forall_mem_cons.2 ⟨.inr List.mem_cons_self,
      fun j hj => (houter j hj).imp_right (List.mem_cons_of_mem i)⟩
  induction h generalizing outer' with
  | null => exact .null
  | bool b => exact .bool b
  | int n => exact .int n
  | float i h => exact .float i h
  | text h => exact .text h
  | list hi _ ih => exact .list (hfree hi houter) fun v hv => ih v hv (hinside houter)
  | dictionary hi hkeys hnames _ ih =>
    exact .dictionary (hfree hi houter) hkeys hnames fun e he => ih e he (hinside houter)

end RowInsert
