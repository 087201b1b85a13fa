import RowInsert.Text.Numeral

/-!
# Decimal numbers of any precision

A finite decimal is a sign, a coefficient and a power of ten, so that `1.5` and `1.50` are two
forms of one value.

* `Decimal.ofText?` reads the form, `Decimal.text` writes it back: positionally while the exponent
  is not positive and at most five zeros follow the point, else with an exponent.
* `Decimal.isRepresentable` bounds the exponent.
* `Decimal.productOverflows` says that a product, as arithmetic rounds it, is out of range.
-/

namespace RowInsert

inductive Decimal where
  | finite (negative : Bool) (coefficient : Nat) (exponent : Int)
  | infinite (negative : Bool)
  /-- A NaN, perhaps signalling, with the digits that may follow its name. -/
  | nan (negative signalling : Bool) (payload : String)
  deriving DecidableEq, Repr, Inhabited

namespace Decimal

def isZero : Decimal → Bool
  | .finite _ c _ => c == 0
  | _ => false

def isNaN : Decimal → Bool
  | .nan .. => true
  | _ => false

/-! ### Reading -/

/-- The value of a run of decimal digits. -/
def digitsValue (ds : List Char) : Nat := ds.foldl (fun n c => 10 * n + (c.toNat - '0'.toNat)) 0

/-- A sign, if there is one, and the rest. -/
def splitSign : List Char → Bool × List Char
  | '-' :: rest => (true, rest)
  | '+' :: rest => (false, rest)
  | cs => (false, cs)

/-- The exponent after the digits; nothing is zero. -/
def exponent? : List Char → Option Int
  | [] => some 0
  | e :: rest =>
    if e = 'e' ∨ e = 'E' then
      let (negative, ds) := splitSign rest
      if ds.isEmpty || !ds.all Char.isDigit then none
      else some (if negative then -(digitsValue ds : Int) else digitsValue ds)
    else none

/-- Digits with an optional point and exponent. -/
def finite? (negative : Bool) (cs : List Char) : Option Decimal := do
  let whole := cs.takeWhile Char.isDigit
  let afterWhole := cs.dropWhile Char.isDigit
  let (fraction, rest) :=
    match afterWhole with
    | '.' :: more => (more.takeWhile Char.isDigit, more.dropWhile Char.isDigit)
    | _ => ([], afterWhole)
  if whole.isEmpty && fraction.isEmpty then none
  else
    let e ← exponent? rest
    some (.finite negative (digitsValue (whole ++ fraction)) (e - fraction.length))

/-- The names that stand for an infinity or a NaN. -/
def special? (negative : Bool) (cs : List Char) : Option Decimal :=
  let lower := cs.map Char.toLower
  if lower = "inf".toList ∨ lower = "infinity".toList then some (.infinite negative)
  else
    let letters := lower.takeWhile (!·.isDigit)
    let digits := lower.dropWhile (!·.isDigit)
    if !digits.all Char.isDigit then none
    else
      let payload := String.ofList (digits.dropWhile (· == '0'))
      if letters = "nan".toList then some (.nan negative false payload)
      else if letters = "snan".toList then some (.nan negative true payload)
      else none

/-- The decimal written as `s`, in digits of any script; blanks around it and underscores do not
count. -/
def ofText? (s : String) : Option Decimal :=
  let (negative, cs) :=
    splitSign (Text.plainDigits ((Text.trim Text.isBlank s.toList).filter (· != '_')))
  (finite? negative cs).or (special? negative cs)

/-! ### Range -/

/-- The number of digits that a coefficient is written with. -/
def digitCount (coefficient : Nat) : Nat := (Nat.toDigits 10 coefficient).length

/-- The least exponent of a decimal. -/
def leastExponent : Int := -1999999999999999997

/-- The greatest power of ten that the first digit of a decimal can stand for. -/
def greatestLeading : Int := 999999999999999999

/-- Whether a decimal of that exponent and that many digits can be had. -/
def isRepresentable : Decimal → Bool
  | .finite _ c e => leastExponent ≤ e && e + digitCount c - 1 ≤ greatestLeading
  | _ => true

/-- The number of digits that results of arithmetic are rounded to. -/
def resultDigits : Nat := 28

/-- The greatest power of ten that the first digit of a result can stand for. -/
def greatestResultLeading : Int := 999999

/-- A quotient rounded to the nearest whole number, a half to the even neighbour. -/
def roundedQuotient (n d : Nat) : Nat :=
  let q := n / d
  if d < 2 * (n % d) || (d == 2 * (n % d) && q % 2 == 1) then q + 1 else q

/-- Whether the product of a decimal and a factor is out of the range of results. -/
def productOverflows (factor : Nat) : Decimal → Bool
  | .finite _ c e =>
    let dropped := digitCount (factor * c) - resultDigits
    let rounded := roundedQuotient (factor * c) (Nat.pow 10 dropped)
    rounded != 0 && greatestResultLeading < e + dropped + digitCount rounded - 1
  | _ => false

/-! ### Writing -/

/-- A signed whole number with its sign always written. -/
def signed (n : Int) : String := (if n < 0 then "-" else "+") ++ toString n.natAbs

/-- The text of a coefficient and a power of ten. -/
def finiteText (coefficient : Nat) (exponent : Int) : String :=
  let digits := Nat.toDigits 10 coefficient
  let left := exponent + digits.length
  let point := if exponent ≤ 0 ∧ -6 < left then left else 1
  let body :=
    if point ≤ 0 then '0' :: '.' :: List.replicate (-point).toNat '0' ++ digits
    else if (digits.length : Int) ≤ point then
      digits ++ List.replicate (point.toNat - digits.length) '0'
    else digits.take point.toNat ++ '.' :: digits.drop point.toNat
  String.ofList body ++ (if left = point then "" else "E" ++ signed (left - point))

def text : Decimal → String
  | .finite negative c e => (if negative then "-" else "") ++ finiteText c e
  | .infinite negative => (if negative then "-" else "") ++ "Infinity"
  | .nan negative signalling payload =>
    (if negative then "-" else "") ++ (if signalling then "sNaN" else "NaN") ++ payload

end Decimal

end RowInsert
