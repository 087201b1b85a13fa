import RowInsert.Failure

/-!
# Values made from parts that may not fit

* `Value.ofNumeral` reads a whole number of at most `longestNumeral` digits, `Decimal.ofText` a
  decimal.
* `Progression.ofNumbers` makes a progression that does not stand still, `Colour.ofNumber` one of
  the two colours.
* `Date.ofNumbers` and `Moment.ofNumbers` make dates of the calendar and times of day; of several
  numbers that are out of range the first one, from the year on, decides.
-/

namespace RowInsert

/-! ### Numbers -/

/-- The most digits that a numeral may have. -/
def longestNumeral : Nat := 4300

/-- The digits of a numeral, in which an underscore may stand between two digits. -/
def numeralDigits? : List Char → Option (List Char)
  | [] => none
  | [c] => if c.isDigit then some [c] else none
  | c :: '_' :: rest => if c.isDigit then (numeralDigits? rest).map (c :: ·) else none
  | c :: d :: rest => if c.isDigit then (numeralDigits? (d :: rest)).map (c :: ·) else none

/-- Whether a character may stand around a numeral. -/
def surroundsNumeral (c : Char) : Bool := Text.isBlank c && !Text.isSeparator c

/-- The whole number that a text writes in digits of any script, with blanks around it and perhaps
a sign. -/
def Value.ofNumeral (s : String) : Except Failure Value :=
  let (negative, cs) :=
    Decimal.splitSign (Text.plainDigits (Text.trim surroundsNumeral s.toList))
  match numeralDigits? cs with
  | none => .error (.numeralInvalid (String.ofList ((Text.quoted s).toList.take 200)))
  | some ds =>
    if longestNumeral < ds.length then .error (.numeralTooLong ds.length longestNumeral)
    else
      let n := Decimal.digitsValue ds
      .ok (.int (if negative then -(n : Int) else n))

/-- The decimal that a text writes. -/
def Decimal.ofText (s : String) : Except Failure Decimal :=
  match Decimal.ofText? s with
  | some d => if d.isRepresentable then .ok d else .error .undefinedResult
  | none => .error .decimalInvalid

/-- The progression of the given start, stop and step. -/
def Progression.ofNumbers (start stop step : Int) : Except Failure Progression :=
  if step = 0 then .error .stepZero else .ok ⟨start, stop, step⟩

/-- The colour of that number. -/
def Colour.ofNumber (n : Int) : Except Failure Colour :=
  if n = Colour.red.number then .ok .red
  else if n = Colour.blue.number then .ok .blue
  else .error (.colourUnknown n)

/-- Fails for a text that is no name of a class. -/
def checkClassName (name : String) : Except Failure Unit :=
  if name.toList.contains '\x00' then .error .classNameHasNul else .ok ()

/-! ### Dates and times -/

/-- A number in the range that its part of a date or time has. -/
def partWithin (part : String) (least greatest : Nat) (n : Int) : Except Failure Nat :=
  if least ≤ n ∧ n ≤ greatest then .ok n.toNat else .error (.partOutOfRange part least greatest)

namespace Date

/-- Whether a year has a day more. -/
def isLeapYear (year : Nat) : Bool := year % 4 = 0 && (year % 100 ≠ 0 || year % 400 = 0)

/-- The number of days in a month. -/
def daysIn (year month : Nat) : Nat :=
  if month = 2 then (if isLeapYear year then 29 else 28)
  else if month ∈ [4, 6, 9, 11] then 30
  else 31

/-- The last year of the calendar. -/
def lastYear : Nat := 9999

/-- The date of the given numbers. -/
def ofNumbers (year month day : Int) : Except Failure Date := do
  if year < 1 ∨ lastYear < year then throw (.yearOutOfRange year)
  let y := year.toNat
  let m ← partWithin "month" 1 12 month
  if day < 1 ∨ daysIn y m < day then throw .dayOutOfRange
  return ⟨y, m, day.toNat⟩

end Date

/-- The moment of the given numbers. -/
def Moment.ofNumbers (year month day hour minute second microsecond : Int) :
    Except Failure Moment := do
  let date ← Date.ofNumbers year month day
  let h ← partWithin "hour" 0 23 hour
  let m ← partWithin "minute" 0 59 minute
  let s ← partWithin "second" 0 59 second
  let us ← partWithin "microsecond" 0 999999 microsecond
  return ⟨date, h, m, s, us⟩

end RowInsert
