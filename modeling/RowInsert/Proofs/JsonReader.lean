import Mathlib.Data.List.TakeWhile
import Mathlib.Tactic.SplitIfs
import RowInsert.Json.Basic
import RowInsert.Number.Decimal

/-!
# Reading JSON documents back

* `Json.read` reads a document by the grammar of JSON: blanks may stand between tokens, a text may
  have escapes of every kind, and a character beyond the first plane may be written as a pair of
  them.  A number is kept as its token.
* `Json.HasNumbers` says which tokens the numbers of a document have.
* `Json.read_render` : a document whose numbers are numerals is read back from what is written.

The reader looks at a text unit by unit and joins pairs afterwards, so `readUnits_escape` is all
there is to know of escapes.  That a document is followed by something which ends its last token
(`Ends`) carries the induction.
-/

namespace RowInsert.Json

/-! ### Texts -/

/-- The value of a hexadecimal digit, in either case. -/
def hexDigit? (c : Char) : Option Nat :=
  if '0' ≤ c ∧ c ≤ '9' then some (c.toNat - '0'.toNat)
  else if 'a' ≤ c ∧ c ≤ 'f' then some (c.toNat - 'a'.toNat + 10)
  else if 'A' ≤ c ∧ c ≤ 'F' then some (c.toNat - 'A'.toNat + 10)
  else none

/-- What a character after a backslash stands for, other than the one of a numeric escape. -/
def shortEscapes : List (Char × Char) :=
  [('"', '"'), ('\\', '\\'), ('/', '/'), ('b', '\x08'), ('f', '\x0c'), ('n', '\n'), ('r', '\r'),
    ('t', '\t')]

/-- Where the reader of a text is. -/
inductive TextState where
  | plain
  /-- After a backslash. -/
  | escape
  /-- In a numeric escape, of which so many digits are missing and the others have this value. -/
  | numeric (missing value : Nat)

/-- The units of sixteen bits of a text up to its closing quote, and what follows that. -/
def readUnits : TextState → List Char → Option (List Nat × List Char)
  | _, [] => none
  | .plain, c :: cs =>
    if c = '"' then some ([], cs)
    else if c = '\\' then readUnits .escape cs
    else if c < ' ' then none
    else (readUnits .plain cs).map (Prod.map (units c.toNat ++ ·) id)
  | .escape, c :: cs =>
    if c = 'u' then readUnits (.numeric 4 0) cs
    else do
      let d ← shortEscapes.lookup c
      (readUnits .plain cs).map (Prod.map (d.toNat :: ·) id)
  | .numeric missing value, c :: cs => do
    let d ← hexDigit? c
    if missing = 1 then (readUnits .plain cs).map (Prod.map ((16 * value + d) :: ·) id)
    else readUnits (.numeric (missing - 1) (16 * value + d)) cs

/-- Whether a unit is the first of a pair. -/
def isLead (u : Nat) : Bool := 0xd800 ≤ u && u < 0xdc00

/-- Whether a unit is the second of a pair. -/
def isTrail (u : Nat) : Bool := 0xdc00 ≤ u && u < 0xe000

/-- The characters of units, of which one half of a pair never stands alone. -/
def joinUnits : List Nat → Option (List Char)
  | [] => some []
  | [u] => if isLead u || isTrail u then none else some [Char.ofNat u]
  | u :: v :: us =>
    if isLead u then
      if isTrail v then
        (joinUnits us).map (Char.ofNat (0x10000 + (u - 0xd800) * 0x400 + (v - 0xdc00)) :: ·)
      else none
    else if isTrail u then none
    else (joinUnits (v :: us)).map (Char.ofNat u :: ·)

/-- A text after its opening quote. -/
def readText (cs : List Char) : Option (String × List Char) := do
  let (us, rest) ← readUnits .plain cs
  let text ← joinUnits us
  return (String.ofList text, rest)

/-! ### Numbers and names -/

def isDigits (cs : List Char) : Bool := cs != [] && cs.all Char.isDigit

/-- The end of a numeral: nothing, or an exponent. -/
def isExponent : List Char → Bool
  | [] => true
  | c :: cs => (c == 'e' || c == 'E') && isDigits (Decimal.splitSign cs).2

/-- What follows the whole part of a numeral. -/
def isFraction : List Char → Bool
  | '.' :: cs => cs.takeWhile Char.isDigit != [] && isExponent (cs.dropWhile Char.isDigit)
  | cs => isExponent cs

/-- A numeral without a sign: no zero stands in front of other digits. -/
def isMagnitude (cs : List Char) : Bool :=
  let whole := cs.takeWhile Char.isDigit
  whole != [] && (whole.head? != some '0' || whole.length == 1) &&
    isFraction (cs.dropWhile Char.isDigit)

def isNumeral : List Char → Bool
  | '-' :: cs => isMagnitude cs
  | cs => isMagnitude cs

/-- Whether a character can be part of a number or a name. -/
def isTokenChar (c : Char) : Bool := c.isAlphanum || c == '+' || c == '-' || c == '.'

/-- A number or a name, which is taken as far as it goes. -/
def readToken (cs : List Char) : Option (Json × List Char) :=
  let token := cs.takeWhile isTokenChar
  let rest := cs.dropWhile isTokenChar
  if token = "null".toList then some (.null, rest)
  else if token = "true".toList then some (.bool true, rest)
  else if token = "false".toList then some (.bool false, rest)
  else if isNumeral token then some (.number (String.ofList token), rest)
  else none

/-! ### Documents -/

def isBlank (c : Char) : Bool := c == ' ' || c == '\t' || c == '\n' || c == '\r'

def skip (cs : List Char) : List Char := cs.dropWhile isBlank

section Sequences

variable {α : Type} (one : List Char → Option (α × List Char)) (closing : Char)

/-- What is read one by one, with commas in between, up to the closing character. -/
def readRest : Nat → List Char → Option (List α × List Char)
  | 0, _ => none
  | fuel + 1, cs => do
    let (x, rest) ← one cs
    match skip rest with
    | [] => none
    | c :: rest =>
      if c = ',' then (readRest fuel rest).map (Prod.map (x :: ·) id)
      else if c = closing then some ([x], rest)
      else none

/-- The same, of which there may be none. -/
def readSequence (fuel : Nat) (cs : List Char) : Option (List α × List Char) :=
  match skip cs with
  | [] => none
  | c :: rest => if c = closing then some ([], rest) else readRest one closing fuel (c :: rest)

end Sequences

/-- A member of an object, of which `one` reads the value. -/
def readMember (one : List Char → Option (Json × List Char)) (cs : List Char) :
    Option ((String × Json) × List Char) :=
  match skip cs with
  | [] => none
  | c :: cs =>
    if c = '"' then do
      let (name, rest) ← readText cs
      match skip rest with
      | [] => none
      | c :: rest => if c = ':' then (one rest).map (Prod.map ((name, ·)) id) else none
    else none

/-- A document and what follows it; `fuel` is more than the depth of the document, and than the
number of parts of anything in it. -/
def readValue : Nat → List Char → Option (Json × List Char)
  | 0, _ => none
  | fuel + 1, cs =>
    match skip cs with
    | [] => none
    | c :: cs =>
      if c = '"' then (readText cs).map (Prod.map .text id)
      else if c = '[' then
        (readSequence (readValue fuel) ']' fuel cs).map (Prod.map .array id)
      else if c = '\x7b' then
        (readSequence (readMember (readValue fuel)) '\x7d' fuel cs).map (Prod.map .object id)
      else readToken (c :: cs)

/-- The document that is written, with nothing else but blanks around it. -/
def read (cs : List Char) : Option Json := do
  let (j, rest) ← readValue (cs.length + 1) cs
  if skip rest = [] then some j else none

/-! ### Texts that were written -/

theorem hexDigit?_digitChar : ∀ d < 16, hexDigit? (Nat.digitChar d) = some d := by decide

theorem readUnits_unitEscape {n : Nat} (hn : n < 0x10000) (rest : List Char) :
    readUnits .plain (unitEscape n ++ rest) =
      (readUnits .plain rest).map (Prod.map (n :: ·) id) := by
  have hdigit (k : Nat) : hexDigit? (Nat.digitChar (k % 16)) = some (k % 16) :=
    hexDigit?_digitChar _ (Nat.mod_lt _ (by decide))
  -- four digits to the base of sixteen, which are put together again in `hvalue`
  have hhex : Text.hex 4 n = [Nat.digitChar (n / 4096 % 16), Nat.digitChar (n / 256 % 16),
      Nat.digitChar (n / 16 % 16), Nat.digitChar (n % 16)] := by
    simp [Text.hex, List.range, List.range.loop]
  have hvalue : 16 * (16 * (16 * (n / 4096 % 16) + n / 256 % 16) + n / 16 % 16) + n % 16 = n := by
    omega
  rw [unitEscape, hhex]
  simp [readUnits, hdigit, hvalue]

theorem units_lt {n : Nat} (hn : n < 0x110000) : ∀ u ∈ units n, u < 0x10000 := by
  unfold units
  split_ifs
  · simpa
  · simp
    omega

theorem toNat_lt (c : Char) : c.toNat < 0x110000 := by
  have hvalid : c.toNat < 0xd800 ∨ 0xdfff < c.toNat ∧ c.toNat < 0x110000 := c.valid
  omega

/-- What stands for a character is read as its units. -/
theorem readUnits_escape (c : Char) (rest : List Char) :
    readUnits .plain (escape c ++ rest) =
      (readUnits .plain rest).map (Prod.map (units c.toNat ++ ·) id) := by
  unfold escape
  split_ifs with h₁ h₂ h₃ h₄ h₅ h₆ h₇
  · rcases h₁ with rfl | rfl <;> rfl
  · subst h₂
    rfl
  · subst h₃
    rfl
  · subst h₄
    rfl
  · subst h₅
    rfl
  · subst h₆
    rfl
  · have hunits : units c.toNat = [c.toNat] := by
      have htilde : c.toNat ≤ '~'.toNat := h₇.2
      exact if_pos (Nat.lt_of_le_of_lt htilde (by decide))
    obtain ⟨hquote, hbackslash⟩ := not_or.1 h₁
    rw [List.singleton_append, readUnits, if_neg hquote, if_neg hbackslash,
      if_neg (Char.not_lt.2 h₇.1)]
  -- a pair is two numeric escapes, one after the other
  · have hall (us : List Nat) (hus : ∀ u ∈ us, u < 0x10000) :
        readUnits .plain (us.flatMap unitEscape ++ rest) =
          (readUnits .plain rest).map (Prod.map (us ++ ·) id) := by
      induction us with
      | nil =>
        change readUnits .plain rest = _
        cases readUnits .plain rest <;> rfl
      | cons u us ih =>
        obtain ⟨hu, hus⟩ := List.forall_mem_cons.1 hus
        rw [List.flatMap_cons, List.append_assoc, readUnits_unitEscape hu, ih hus]
        cases readUnits .plain rest <;> rfl
    exact hall _ (units_lt (toNat_lt c))

theorem readUnits_text (cs rest : List Char) :
    readUnits .plain (cs.flatMap escape ++ '"' :: rest) =
      some (cs.flatMap fun c => units c.toNat, rest) := by
  induction cs with
  | nil => rfl
  | cons c cs ih =>
    rw [List.flatMap_cons, List.append_assoc, readUnits_escape, ih]
    rfl

theorem joinUnits_units (c : Char) (us : List Nat) :
    joinUnits (units c.toNat ++ us) = (joinUnits us).map (c :: ·) := by
  -- a character is no half of a pair, so its units are taken apart in one way
  have hvalid : c.toNat < 0xd800 ∨ 0xdfff < c.toNat ∧ c.toNat < 0x110000 := c.valid
  unfold units
  split_ifs with h
  · have hlead : isLead c.toNat = false := by
      simp [isLead]
      omega
    have htrail : isTrail c.toNat = false := by
      simp [isTrail]
      omega
    cases us with
    | nil => simp [joinUnits, hlead, htrail]
    | cons u us => simp [joinUnits, hlead, htrail]
  · have hlead : isLead (0xd800 + (c.toNat - 0x10000) / 0x400) = true := by
      simp [isLead]
      omega
    have htrail : isTrail (0xdc00 + (c.toNat - 0x10000) % 0x400) = true := by
      simp [isTrail]
      omega
    have hvalue : 0x10000 + (0xd800 + (c.toNat - 0x10000) / 0x400 - 0xd800) * 0x400 +
        (0xdc00 + (c.toNat - 0x10000) % 0x400 - 0xdc00) = c.toNat := by
      omega
    rw [List.cons_append, List.singleton_append, joinUnits, if_pos hlead, if_pos htrail, hvalue,
      Char.ofNat_toNat]

theorem joinUnits_text (cs : List Char) :
    joinUnits (cs.flatMap fun c => units c.toNat) = some cs := by
  induction cs with
  | nil => rfl
  | cons c cs ih =>
    rw [List.flatMap_cons, joinUnits_units, ih]
    rfl

/-- A text that was written is read back, whatever follows it. -/
theorem readText_escaped (s : String) (rest : List Char) :
    readText (s.toList.flatMap escape ++ '"' :: rest) = some (s, rest) := by
  unfold readText
  rw [readUnits_text]
  change (do
    let text ← joinUnits (s.toList.flatMap fun c : Char => units c.toNat)
    return (String.ofList text, rest)) = _
  rw [joinUnits_text]
  exact congrArg (fun t => some (t, rest)) String.ofList_toList

/-! ### Tokens that were written -/

/-- Nothing that follows can belong to a token in front of it. -/
def Ends (rest : List Char) : Prop := ∀ c ∈ rest.head?, isTokenChar c = false

theorem ends_nil : Ends [] := by simp [Ends]

theorem ends_cons {c : Char} (h : isTokenChar c = false) (rest : List Char) : Ends (c :: rest) := by
  simpa [Ends]

/-- What satisfies a test is taken as far as it goes. -/
theorem span_append {p : Char → Bool} {front rest : List Char} (hfront : ∀ c ∈ front, p c = true)
    (hrest : ∀ c ∈ rest.head?, p c = false) :
    (front ++ rest).takeWhile p = front ∧ (front ++ rest).dropWhile p = rest := by
  rw [List.takeWhile_append_of_pos hfront, List.dropWhile_append_of_pos hfront]
  cases rest with
  | nil => simp
  | cons c rest =>
    have hc : p c = false := hrest c rfl
    simp [hc]

theorem readToken_append {token rest : List Char} (h : ∀ c ∈ token, isTokenChar c = true)
    (hrest : Ends rest) :
    readToken (token ++ rest) =
      if token = "null".toList then some (.null, rest)
      else if token = "true".toList then some (.bool true, rest)
      else if token = "false".toList then some (.bool false, rest)
      else if isNumeral token then some (.number (String.ofList token), rest)
      else none := by
  unfold readToken
  rw [(span_append h hrest).1, (span_append h hrest).2]

theorem isTokenChar_of_isDigit {c : Char} (h : c.isDigit = true) : isTokenChar c = true := by
  simp [isTokenChar, Char.isAlphanum, h]

theorem isTokenChar_of_isDigits {cs : List Char} (h : isDigits cs = true) :
    ∀ c ∈ cs, isTokenChar c = true := fun c hc =>
  isTokenChar_of_isDigit (List.all_eq_true.1 (Bool.and_eq_true_iff.1 h).2 c hc)

theorem isTokenChar_of_splitSign {cs : List Char}
    (h : ∀ c ∈ (Decimal.splitSign cs).2, isTokenChar c = true) :
    ∀ c ∈ cs, isTokenChar c = true := by
  unfold Decimal.splitSign at h
  split at h
  · exact List.forall_mem_cons.2 ⟨by decide, h⟩
  · exact List.forall_mem_cons.2 ⟨by decide, h⟩
  · exact h

theorem isTokenChar_of_isExponent {cs : List Char} (h : isExponent cs = true) :
    ∀ c ∈ cs, isTokenChar c = true := by
  cases cs with
  | nil => simp
  | cons c cs =>
    obtain ⟨hc, hcs⟩ := Bool.and_eq_true_iff.1 h
    refine List.forall_mem_cons.2 ⟨?_, isTokenChar_of_splitSign (isTokenChar_of_isDigits hcs)⟩
    rcases Bool.or_eq_true_iff.1 hc with hc | hc
    · rw [beq_iff_eq.1 hc]
      decide
    · rw [beq_iff_eq.1 hc]
      decide

theorem forall_of_span {p q : Char → Bool} {cs : List Char} (hpq : ∀ c, p c = true → q c = true)
    (h : ∀ c ∈ cs.dropWhile p, q c = true) : ∀ c ∈ cs, q c = true := by
  rw [← List.takeWhile_append_dropWhile (p := p) (l := cs)]
  exact List.forall_mem_append.2 ⟨fun c hc => hpq c (List.mem_takeWhile_imp hc), h⟩

theorem isTokenChar_of_isFraction {cs : List Char} (h : isFraction cs = true) :
    ∀ c ∈ cs, isTokenChar c = true := by
  unfold isFraction at h
  split at h
  · obtain ⟨-, h⟩ := Bool.and_eq_true_iff.1 h
    exact List.forall_mem_cons.2 ⟨by decide,
      forall_of_span (fun _ => isTokenChar_of_isDigit) (isTokenChar_of_isExponent h)⟩
  · exact isTokenChar_of_isExponent h

theorem isTokenChar_of_isMagnitude {cs : List Char} (h : isMagnitude cs = true) :
    ∀ c ∈ cs, isTokenChar c = true :=
  forall_of_span (fun _ => isTokenChar_of_isDigit)
    (isTokenChar_of_isFraction (Bool.and_eq_true_iff.1 h).2)

theorem isTokenChar_of_isNumeral {cs : List Char} (h : isNumeral cs = true) :
    ∀ c ∈ cs, isTokenChar c = true := by
  unfold isNumeral at h
  split at h
  · exact List.forall_mem_cons.2 ⟨by decide, isTokenChar_of_isMagnitude h⟩
  · exact isTokenChar_of_isMagnitude h

theorem readToken_numeral {token rest : List Char} (h : isNumeral token = true)
    (hrest : Ends rest) :
    readToken (token ++ rest) = some (.number (String.ofList token), rest) := by
  have hname {name : String} (hname : isNumeral name.toList = false) : token ≠ name.toList := by
    rintro rfl
    exact Bool.false_ne_true (hname.symm.trans h)
  rw [readToken_append (isTokenChar_of_isNumeral h) hrest, if_neg (hname (by decide)),
    if_neg (hname (by decide)), if_neg (hname (by decide)), if_pos h]

/-! ### Documents that were written -/

/-- The tokens of all numbers of a document satisfy `P`. -/
inductive HasNumbers (P : String → Prop) : Json → Prop
  | null : HasNumbers P .null
  | bool (b : Bool) : HasNumbers P (.bool b)
  | number {token : String} (h : P token) : HasNumbers P (.number token)
  | text (s : String) : HasNumbers P (.text s)
  | array {items : List Json} (h : ∀ x ∈ items, HasNumbers P x) : HasNumbers P (.array items)
  | object {members : List (String × Json)} (h : ∀ m ∈ members, HasNumbers P m.2) :
    HasNumbers P (.object members)

/-- A member as it is written. -/
def renderMember (m : String × Json) : List Char := renderText m.1 ++ ':' :: m.2.render

theorem intercalate_map_cons_cons {α : Type} (write : α → List Char) (x y : α) (xs : List α) :
    [','].intercalate ((x :: y :: xs).map write) =
      write x ++ ',' :: [','].intercalate ((y :: xs).map write) := by
  rw [List.map_cons, List.map_cons, List.intercalate_cons_cons, List.append_assoc,
    List.singleton_append]

theorem renderItems_eq (items : List Json) :
    renderItems items = [','].intercalate (items.map render) := by
  induction items with
  | nil =>
    rw [renderItems]
    rfl
  | cons x items ih =>
    cases items with
    | nil => rw [renderItems, List.map_singleton, List.intercalate_singleton]
    | cons y items => rw [renderItems, ih, intercalate_map_cons_cons]

theorem renderMembers_eq (members : List (String × Json)) :
    renderMembers members = [','].intercalate (members.map renderMember) := by
  induction members with
  | nil =>
    rw [renderMembers]
    rfl
  | cons m members ih =>
    cases members with
    | nil => rw [renderMembers, List.map_singleton, List.intercalate_singleton, renderMember]
    | cons m' members => rw [renderMembers, ih, intercalate_map_cons_cons, renderMember]

/-- What begins with a character that is no blank, and closes nothing. -/
def Opens (cs : List Char) : Prop :=
  ∃ c rest, cs = c :: rest ∧ isBlank c = false ∧ c ≠ ']' ∧ c ≠ '\x7d'

theorem Opens.append {cs : List Char} (h : Opens cs) (rest : List Char) : Opens (cs ++ rest) := by
  obtain ⟨c, cs, rfl, hc⟩ := h
  exact ⟨c, cs ++ rest, rfl, hc⟩

theorem opens_of_isTokenChar {cs : List Char} (hcs : cs ≠ [])
    (h : ∀ c ∈ cs, isTokenChar c = true) : Opens cs := by
  cases cs with
  | nil => exact absurd rfl hcs
  | cons c cs =>
    have hc := h c List.mem_cons_self
    refine ⟨c, cs, rfl, Bool.eq_false_iff.2 fun hblank => ?_, ?_, ?_⟩
    · simp only [isBlank, Bool.or_eq_true, beq_iff_eq] at hblank
      rcases hblank with ((rfl | rfl) | rfl) | rfl <;> cases hc
    · rintro rfl
      cases hc
    · rintro rfl
      cases hc

theorem opens_of_isNumeral {cs : List Char} (h : isNumeral cs = true) : Opens cs := by
  refine opens_of_isTokenChar ?_ (isTokenChar_of_isNumeral h)
  rintro rfl
  cases h

/-- The numbers of a document are numerals. -/
abbrev IsNumeric (j : Json) : Prop := j.HasNumbers fun token => isNumeral token.toList = true

theorem opens_render {j : Json} (h : j.IsNumeric) : Opens j.render := by
  cases h with
  | number h => exact opens_of_isNumeral h
  | bool b => cases b <;> exact ⟨_, _, rfl, by decide⟩
  | _ => exact ⟨_, _, rfl, by decide⟩

theorem skip_of_not_isBlank {c : Char} (h : isBlank c = false) (cs : List Char) :
    skip (c :: cs) = c :: cs := by
  rw [skip, List.dropWhile_cons_of_neg (Bool.eq_false_iff.1 h)]

section Sequences

variable {α : Type} {one : List Char → Option (α × List Char)} {closing : Char}
variable {write : α → List Char} {xs : List α}

/-- Parts that are read back one by one are read back when they are written with commas in
between. -/
theorem readRest_intercalate {x : α} {fuel : Nat} (rest : List Char)
    (hone : ∀ y ∈ x :: xs, ∀ rest, Ends rest → one (write y ++ rest) = some (y, rest))
    (hclosing : closing = ']' ∨ closing = '\x7d') (hfuel : xs.length < fuel) :
    readRest one closing fuel ([','].intercalate ((x :: xs).map write) ++ closing :: rest) =
      some (x :: xs, rest) := by
  obtain ⟨hblank, htoken, hcomma⟩ :
      isBlank closing = false ∧ isTokenChar closing = false ∧ closing ≠ ',' := by
    rcases hclosing with rfl | rfl <;> decide
  induction xs generalizing x fuel with
  | nil =>
    obtain ⟨fuel, rfl⟩ := Nat.exists_eq_succ_of_ne_zero (Nat.ne_of_gt hfuel)
    have hx := hone x List.mem_cons_self (closing :: rest) (ends_cons htoken rest)
    rw [List.map_singleton, List.intercalate_singleton, readRest, hx]
    change (match skip (closing :: rest) with
      | [] => none
      | c :: rest =>
        if c = ',' then (readRest one closing fuel rest).map (Prod.map (x :: ·) id)
        else if c = closing then some ([x], rest)
        else none) = _
    rw [skip_of_not_isBlank hblank]
    dsimp only
    rw [if_neg hcomma, if_pos rfl]
  | cons y xs ih =>
    obtain ⟨fuel, rfl⟩ := Nat.exists_eq_succ_of_ne_zero (Nat.ne_of_gt (Nat.zero_lt_of_lt hfuel))
    obtain ⟨hx, hxs⟩ := List.forall_mem_cons.1 hone
    have hsplit : [','].intercalate ((x :: y :: xs).map write) ++ closing :: rest =
        write x ++ ',' :: ([','].intercalate ((y :: xs).map write) ++ closing :: rest) := by
      rw [intercalate_map_cons_cons, List.append_assoc, List.cons_append]
    rw [hsplit, readRest, hx _ (ends_cons (by decide) _)]
    change (match skip (',' :: _) with
      | [] => none
      | c :: rest =>
        if c = ',' then (readRest one closing fuel rest).map (Prod.map (x :: ·) id)
        else if c = closing then some ([x], rest)
        else none) = _
    rw [skip_of_not_isBlank (by decide)]
    dsimp only
    rw [if_pos rfl, ih hxs (Nat.lt_of_succ_lt_succ hfuel)]
    rfl

theorem readSequence_intercalate {fuel : Nat} (rest : List Char)
    (hone : ∀ y ∈ xs, ∀ rest, Ends rest → one (write y ++ rest) = some (y, rest))
    (hopens : ∀ y ∈ xs, Opens (write y)) (hclosing : closing = ']' ∨ closing = '\x7d')
    (hfuel : xs.length ≤ fuel) :
    readSequence one closing fuel ([','].intercalate (xs.map write) ++ closing :: rest) =
      some (xs, rest) := by
  unfold readSequence
  cases xs with
  | nil =>
    have hblank : isBlank closing = false := by
      rcases hclosing with rfl | rfl <;> decide
    rw [List.map_nil, List.intercalate_nil, List.nil_append, skip_of_not_isBlank hblank]
    exact if_pos rfl
  | cons x xs =>
    have hread := readRest_intercalate rest hone hclosing hfuel
    -- what is written first is not the closing character, nor a blank in front of it
    obtain ⟨c, cs, hcs, hblank, hbracket, hbrace⟩ : Opens
        ([','].intercalate ((x :: xs).map write) ++ closing :: rest) := by
      have hx := hopens x List.mem_cons_self
      cases xs with
      | nil =>
        rw [List.map_singleton, List.intercalate_singleton]
        exact hx.append _
      | cons y xs =>
        rw [intercalate_map_cons_cons, List.append_assoc]
        exact hx.append _
    rw [hcs] at hread ⊢
    rw [skip_of_not_isBlank hblank]
    refine (if_neg ?_).trans hread
    rcases hclosing with rfl | rfl
    · exact hbracket
    · exact hbrace

end Sequences

theorem length_le_intercalate (parts : List (List Char)) :
    (∀ part ∈ parts, part.length ≤ ([','].intercalate parts).length) ∧
      parts.length ≤ ([','].intercalate parts).length + 1 := by
  induction parts with
  | nil => simp
  | cons part parts ih =>
    cases parts with
    | nil => simp
    | cons part' parts =>
      obtain ⟨hparts, hlength⟩ := ih
      have htotal : ([','].intercalate (part :: part' :: parts)).length =
          part.length + 1 + ([','].intercalate (part' :: parts)).length := by
        rw [List.intercalate_cons_cons, List.length_append, List.length_append,
          List.length_singleton]
      rw [htotal, List.length_cons]
      refine ⟨List.forall_mem_cons.2 ⟨by omega, fun q hq => ?_⟩, by omega⟩
      exact Nat.le_trans (hparts q hq) (Nat.le_add_left _ _)

theorem readMember_renderMember {one : List Char → Option (Json × List Char)} {m : String × Json}
    (rest : List Char) (hone : one (m.2.render ++ rest) = some (m.2, rest)) :
    readMember one (renderMember m ++ rest) = some (m, rest) := by
  have hsplit : renderMember m ++ rest =
      '"' :: (m.1.toList.flatMap escape ++ '"' :: (':' :: (m.2.render ++ rest))) := by
    simp [renderMember, renderText]
  unfold readMember
  rw [hsplit, skip_of_not_isBlank (by decide)]
  dsimp only
  rw [if_pos rfl, readText_escaped]
  change (match skip (':' :: _) with
    | [] => none
    | c :: rest => if c = ':' then (one rest).map (Prod.map ((m.1, ·)) id) else none) = _
  rw [skip_of_not_isBlank (by decide)]
  dsimp only
  rw [if_pos rfl, hone]
  rfl

theorem readValue_token {token : List Char} (htoken : token ≠ [])
    (h : ∀ c ∈ token, isTokenChar c = true) (fuel : Nat) (rest : List Char) :
    readValue (fuel + 1) (token ++ rest) = readToken (token ++ rest) := by
  obtain ⟨c, cs, rfl, hblank, -⟩ := opens_of_isTokenChar htoken h
  have hc := h c List.mem_cons_self
  have hne {d : Char} (hd : isTokenChar d = false) : c ≠ d := by
    rintro rfl
    exact Bool.false_ne_true (hd.symm.trans hc)
  rw [List.cons_append, readValue, skip_of_not_isBlank hblank]
  dsimp only
  rw [if_neg (hne (by decide)), if_neg (hne (by decide)), if_neg (hne (by decide))]

theorem readValue_text (s : String) (fuel : Nat) (rest : List Char) :
    readValue (fuel + 1) (render (.text s) ++ rest) = some (.text s, rest) := by
  have hsplit : render (.text s) ++ rest = '"' :: (s.toList.flatMap escape ++ '"' :: rest) := by
    simp [render, renderText]
  rw [hsplit, readValue, skip_of_not_isBlank (by decide)]
  dsimp only
  rw [if_pos rfl, readText_escaped]
  rfl

theorem readValue_array {items : List Json} {fuel : Nat} (rest : List Char)
    (hfuel : (render (.array items)).length ≤ fuel + 1) (hopens : ∀ x ∈ items, Opens x.render)
    (hone : ∀ x ∈ items, x.render.length ≤ fuel →
      ∀ rest, Ends rest → readValue fuel (x.render ++ rest) = some (x, rest)) :
    readValue (fuel + 1) (render (.array items) ++ rest) = some (.array items, rest) := by
  have hsplit : render (.array items) ++ rest =
      '[' :: ([','].intercalate (items.map render) ++ ']' :: rest) := by
    simp [render, renderItems_eq]
  obtain ⟨hparts, hcount⟩ := length_le_intercalate (items.map render)
  -- two characters of the text are not of its items, so that the fuel lasts for a closing mark
  have htotal : ([','].intercalate (items.map render)).length + 1 ≤ fuel := by
    simp only [render, renderItems_eq, List.length_append, List.length_cons,
      List.length_nil] at hfuel
    omega
  have hitem : ∀ x ∈ items, ∀ rest, Ends rest →
      readValue fuel (x.render ++ rest) = some (x, rest) := fun x hx =>
    hone x hx (Nat.le_trans (hparts _ (List.mem_map_of_mem hx)) (Nat.le_of_succ_le htotal))
  rw [List.length_map] at hcount
  rw [hsplit, readValue, skip_of_not_isBlank (by decide)]
  dsimp only
  rw [if_neg (by decide), if_pos rfl, readSequence_intercalate rest hitem hopens (.inl rfl)
    (Nat.le_trans hcount htotal)]
  rfl

theorem readValue_object {members : List (String × Json)} {fuel : Nat} (rest : List Char)
    (hfuel : (render (.object members)).length ≤ fuel + 1)
    (hone : ∀ m ∈ members, m.2.render.length ≤ fuel →
      ∀ rest, Ends rest → readValue fuel (m.2.render ++ rest) = some (m.2, rest)) :
    readValue (fuel + 1) (render (.object members) ++ rest) = some (.object members, rest) := by
  have hsplit : render (.object members) ++ rest =
      '\x7b' :: ([','].intercalate (members.map renderMember) ++ '\x7d' :: rest) := by
    simp [render, renderMembers_eq]
  obtain ⟨hparts, hcount⟩ := length_le_intercalate (members.map renderMember)
  have htotal : ([','].intercalate (members.map renderMember)).length + 1 ≤ fuel := by
    simp only [render, renderMembers_eq, List.length_append, List.length_cons,
      List.length_nil] at hfuel
    omega
  have hmember : ∀ m ∈ members, ∀ rest, Ends rest →
      readMember (readValue fuel) (renderMember m ++ rest) = some (m, rest) := by
    intro m hm rest hrest
    have hvalue : m.2.render.length ≤ (renderMember m).length := by
      rw [renderMember, List.length_append, List.length_cons]
      omega
    have hpart := hparts _ (List.mem_map_of_mem hm)
    exact readMember_renderMember rest (hone m hm (by omega) rest hrest)
  rw [List.length_map] at hcount
  rw [hsplit, readValue, skip_of_not_isBlank (by decide)]
  dsimp only
  rw [if_neg (by decide), if_neg (by decide), if_pos rfl, readSequence_intercalate rest hmember
    (fun m _ => ⟨_, _, rfl, by decide⟩) (.inr rfl) (Nat.le_trans hcount htotal)]
  rfl

/-- A document is read back, whatever follows it but does not belong to its last token. -/
theorem readValue_render {j : Json} (h : j.IsNumeric) {fuel : Nat} (hfuel : j.render.length ≤ fuel)
    {rest : List Char} (hrest : Ends rest) :
    readValue fuel (j.render ++ rest) = some (j, rest) := by
  have hsucc {j : Json} (h : j.IsNumeric) {fuel : Nat} (hfuel : j.render.length ≤ fuel) :
      ∃ k, fuel = k + 1 := by
    obtain ⟨c, cs, hcs, -⟩ := opens_render h
    rw [hcs] at hfuel
    exact Nat.exists_eq_succ_of_ne_zero (Nat.ne_of_gt (Nat.lt_of_lt_of_le (Nat.succ_pos _) hfuel))
  -- on the document; a part is followed by a comma or a closing mark, hence by any `rest` that ends
  induction h generalizing fuel rest with
  | null =>
    obtain ⟨fuel, rfl⟩ := hsucc .null hfuel
    have htoken : ∀ c ∈ "null".toList, isTokenChar c = true := List.all_eq_true.1 rfl
    rw [render, readValue_token (by decide) htoken, readToken_append htoken hrest]
    rfl
  | bool b =>
    obtain ⟨fuel, rfl⟩ := hsucc (.bool b) hfuel
    have hname {name : String} (hne : name.toList ≠ [])
        (htoken : ∀ c ∈ name.toList, isTokenChar c = true) :=
      (readValue_token hne htoken fuel rest).trans (readToken_append htoken hrest)
    cases b
    · exact hname (by decide) (List.all_eq_true.1 rfl)
    · exact hname (by decide) (List.all_eq_true.1 rfl)
  | @number token h =>
    obtain ⟨fuel, rfl⟩ := hsucc (.number h) hfuel
    obtain ⟨c, cs, hcs, -⟩ := opens_of_isNumeral h
    rw [render, readValue_token (hcs ▸ List.cons_ne_nil c cs) (isTokenChar_of_isNumeral h),
      readToken_numeral h hrest, String.ofList_toList]
  | text s =>
    obtain ⟨fuel, rfl⟩ := hsucc (.text s) hfuel
    exact readValue_text s fuel rest
  | @array items h ih =>
    obtain ⟨fuel, rfl⟩ := hsucc (.array h) hfuel
    exact readValue_array rest hfuel (fun x hx => opens_render (h x hx))
      fun x hx hlength _ hends => ih x hx hlength hends
  | @object members h ih =>
    obtain ⟨fuel, rfl⟩ := hsucc (.object h) hfuel
    exact readValue_object rest hfuel fun m hm hlength _ hends => ih m hm hlength hends

/-- **What is written is read back:** a document whose numbers are numerals is the one that is read
from its text. -/
theorem read_render {j : Json} (h : j.IsNumeric) : read j.render = some j := by
  have hread := readValue_render h (Nat.le_succ j.render.length) ends_nil
  rw [List.append_nil] at hread
  unfold read
  rw [hread]
  rfl

/-- Blanks and pairs of escapes are read though they are never written. -/
example : read " [1.5e3, \"\\uD83D\\ude00\\/\"] ".toList =
    some (.array [.number "1.5e3", .text "😀/"]) := by rfl

/-- Half of a pair is refused, and so is a number with a zero in front. -/
example : read "\"\\ud83d\"".toList = none ∧ read "01".toList = none := by
  constructor <;> rfl

end RowInsert.Json
