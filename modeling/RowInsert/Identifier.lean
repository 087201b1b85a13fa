import RowInsert.Value.Equality
import RowInsert.Value.Listing

/-!
# Quoted identifiers

An identifier stands between an opening and a closing mark, and the closing mark is written twice
inside, so that an identifier cannot end its own quoting.

* `double` writes every occurrence of a mark twice, from left to right and without overlap.
* `enquote` quotes an identifier between marks that are texts.
* `Delimiters.quote` quotes any value, between marks that may be any values, and fails as they
  require.
* `Value.call` calls a value that may be a quoter.
* `Delimiters.quoteBy` fails for an identifier whose parts cannot be replaced.
-/

namespace RowInsert

namespace Identifier

/-- `double` for a mark that is not empty; `pending` characters belong to an occurrence that has
been written already. -/
def doubleFrom (mark : List Char) : Nat → List Char → List Char
  | _, [] => []
  | pending + 1, _ :: rest => doubleFrom mark pending rest
  | 0, c :: rest =>
    if mark.isPrefixOf (c :: rest) then
      mark ++ mark ++ doubleFrom mark (mark.length - 1) rest
    else c :: doubleFrom mark 0 rest

/-- Every occurrence of the mark is written twice, from left to right and without overlap.  The
empty mark occurs nowhere. -/
def double (mark s : List Char) : List Char :=
  if mark.isEmpty then s else doubleFrom mark 0 s

/-- An identifier between its marks. -/
def enquote (opening closing s : List Char) : List Char :=
  opening ++ double closing s ++ closing

theorem doubleFrom_eq_drop (mark : List Char) (pending : Nat) (s : List Char) :
    doubleFrom mark pending s = doubleFrom mark 0 (s.drop pending) := by
  induction pending generalizing s with
  | zero => rw [List.drop_zero]
  | succ n ih =>
    cases s with
    | nil => simp only [doubleFrom, List.drop_nil]
    | cons c rest => rw [doubleFrom, ih, List.drop_succ_cons]

theorem double_nil (mark : List Char) : double mark [] = [] := by
  cases mark <;> rfl

/-- An occurrence at the front is written twice. -/
theorem double_append {mark : List Char} (h : mark ≠ []) (s : List Char) :
    double mark (mark ++ s) = mark ++ mark ++ double mark s := by
  obtain ⟨c, rest, rfl⟩ := List.exists_cons_of_ne_nil h
  have hp : (c :: rest).isPrefixOf (c :: (rest ++ s)) = true :=
    List.isPrefixOf_iff_prefix.2 (List.prefix_append (c :: rest) s)
  simp only [double, List.isEmpty_cons, Bool.false_eq_true, ↓reduceIte, List.cons_append,
    doubleFrom, hp]
  rw [doubleFrom_eq_drop, List.length_cons, Nat.add_sub_cancel, List.drop_left]

/-- A character at which no occurrence starts is left alone. -/
theorem double_cons {mark : List Char} {c : Char} {s : List Char} (h : ¬ mark <+: c :: s) :
    double mark (c :: s) = c :: double mark s := by
  have hp : mark.isPrefixOf (c :: s) = false := by
    rw [← Bool.not_eq_true, List.isPrefixOf_iff_prefix]; exact h
  simp only [double, doubleFrom, hp, Bool.false_eq_true, ↓reduceIte]
  split <;> rfl

/-- What keeps a text from being an identifier: it is empty, or has a NUL in it. -/
def check (s : String) : Except Failure Unit :=
  if s.toList.isEmpty then .error .identifierEmpty
  else if s.toList.contains '\x00' then .error (.identifierHasNul (Text.quoted s))
  else .ok ()

end Identifier

/-- The marks that an identifier stands between.  They may be any values. -/
structure Delimiters where
  opening : Value
  closing : Value
  deriving Repr, Inhabited

namespace Value

/-- Whether two copies of a value can be joined to one: numbers, texts and most sequences. -/
def isRepeatable : Value → Bool
  | .bool _ | .int _ | .float .. | .complex .. | .colour _ | .decimal .. => true
  | .text _ | .derivedText .. => true
  | .bytes .constant _ _ | .bytes .changeable _ _ => true
  | .sequence .list _ _ | .sequence .tuple _ _ | .sequence .deque _ _ => true
  | _ => false

end Value

/-- Whether a value is a decimal whose double is out of range. -/
def Value.doubleOverflows : Value → Bool
  | .decimal d _ => d.productOverflows 2
  | _ => false

namespace Delimiters

/-- Double quotes, the standard marks. -/
def ansi : Delimiters := ⟨.text "\"", .text "\""⟩

def mysql : Delimiters := ⟨.text "\x60", .text "\x60"⟩

def mssql : Delimiters := ⟨.text "[", .text "]"⟩

/-- Fails for a closing mark that cannot be doubled. -/
def checkClosing (d : Delimiters) : Except Failure Unit :=
  if d.closing.isSignaling then .error .undefinedResult
  else if d.closing.doubleOverflows then .error .resultTooLarge
  else if d.closing.isRepeatable then .ok ()
  else .error (.noArithmetic "*" d.closing.qualifiedName)

/-- The text of the closing mark, which has to be doubled. -/
def closingText (d : Delimiters) : Except Failure String :=
  match d.closing.text? with
  | some s => .ok s
  | none => do
    d.checkClosing
    .error (.notReplaceable d.closing.qualifiedName)

/-- A value as a quoted identifier. -/
def quote (d : Delimiters) (identifier : Value) : Except Failure Value :=
  match identifier.text? with
  | none => .error (.identifierNotText identifier.typeName)
  | some s => do
    Identifier.check s
    let closing ← d.closingText
    let opening ← d.opening.plain
    return .text (String.ofList
      (Identifier.enquote opening.toList closing.toList s.toList))

/-- The function that a quoter is called by, as messages name it. -/
def callName : String := RecordClass.quoter.name ++ ".__call__"

/-- The failure of a quoter that is given no identifier. -/
def argumentMissing : Failure := .missingArguments callName false ["identifier"]

/-- The marks of a value that is itself a quoter. -/
def ofValue? : Value → Option Delimiters
  | .record .quoter _ fields =>
    some ⟨(fields.lookup "open_char").getD .null, (fields.lookup "close_char").getD .null⟩
  | _ => none

end Delimiters

namespace Value

/-- What a value answers when it is called with an argument: only a quoter can be called. -/
def call (v argument : Value) : Except Failure Value :=
  match Delimiters.ofValue? v with
  | some d => d.quote argument
  | none => .error (.notCallable v.qualifiedName)

/-- The failure to call a value with an argument of a name that no quoter has for one. -/
def callNamed (v : Value) (name : String) : Failure :=
  match Delimiters.ofValue? v with
  | some _ => .unexpectedArgument Delimiters.callName name
  | none => .notCallable v.qualifiedName

/-- The failure to call a value with two arguments. -/
def callWithTwo (v : Value) : Failure :=
  match Delimiters.ofValue? v with
  | some _ => .tooManyArguments Delimiters.callName 2 3
  | none => .notCallable v.qualifiedName

/-- The failure to call a value without an argument. -/
def callEmpty (v : Value) : Failure :=
  match Delimiters.ofValue? v with
  | some _ => Delimiters.argumentMissing
  | none => .notCallable v.qualifiedName

end Value

/-- An identifier that has the value `v` where texts have the function that replaces parts of them
cannot be quoted. -/
def Delimiters.quoteBy (d : Delimiters) (v identifier : Value) : Except Failure Value :=
  match identifier.text? with
  | none => .error (.identifierNotText identifier.typeName)
  | some s => do
    Identifier.check s
    d.checkClosing
    .error v.callWithTwo

end RowInsert
