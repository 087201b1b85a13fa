import RowInsert.Number.Binary64

/-!
# The shortest decimal that reads back

A finite positive number `m · 2 ^ q` is the nearest one to every real in an interval around it.
`Shortest.decimal` gives the point of the coarsest decimal grid that lies in this interval, the
nearest one if two do, and the even one at a tie: the fewest digits that read back.

* `Shortest.Interval` is the interval in quarter units, with its end points in or out.
* `Shortest.search` walks the decimal grids from coarse to fine.
* `FloatStyle.text` writes the digits out, positionally or with an exponent.
-/

namespace RowInsert

namespace Shortest

/-- The reals that round to `centre`, all in units of `2 ^ scale`. -/
structure Interval where
  low : Nat
  centre : Nat
  high : Nat
  scale : Int
  /-- Whether the end points round to the number as well. -/
  closed : Bool
  deriving Repr

/-- The interval of a positive finite number: half a unit to either side, but only a quarter
below a power of two, whose lower neighbour is nearer. -/
def Interval.around (x : Binary64) : Interval :=
  let m := x.significand
  let narrow := x.fractionField = 0 ∧ 1 < x.exponentField
  { low := if narrow then 4 * m - 1 else 4 * m - 2
    centre := 4 * m
    high := 4 * m + 2
    scale := x.scale - 2
    closed := m % 2 = 0 }

/-- The factors `(a, b)` that bring `n · 2 ^ q` and `d · 10 ^ k` to one unit: `n · a` and
`d · b`. -/
def commonUnit (q k : Int) : Nat × Nat :=
  (Nat.pow 2 q.toNat * Nat.pow 10 (-k).toNat, Nat.pow 10 k.toNat * Nat.pow 2 (-q).toNat)

/-- Whether the positive decimal `d · 10 ^ k` lies in the interval. -/
def Interval.holds (i : Interval) (k : Int) (d : Nat) : Bool :=
  let (a, b) := commonUnit i.scale k
  if i.closed then i.low * a ≤ d * b && d * b ≤ i.high * a
  else i.low * a < d * b && d * b < i.high * a

/-- The point of the grid of `10 ^ k` in the interval: of two, the nearer, and of two equally
near the even one. -/
def Interval.pick (i : Interval) (k : Int) : Option Nat :=
  let (a, b) := commonUnit i.scale k
  let below := i.centre * a / b
  let above := below + 1
  match below != 0 && i.holds k below, i.holds k above with
  | true, true =>
    let down := i.centre * a - below * b
    let up := above * b - i.centre * a
    if down < up then some below
    else if up < down then some above
    else if below % 2 = 0 then some below else some above
  | true, false => some below
  | false, true => some above
  | false, false => none

/-- The first grid from `10 ^ k` down that has a point in the interval. -/
def search (i : Interval) : Nat → Int → Nat × Int
  | 0, k => (i.centre, k)
  | fuel + 1, k =>
    match i.pick k with
    | some d => (d, k)
    | none => search i fuel (k - 1)

/-- A power of ten that is not below the interval's upper end: `log10 2 < 30103 / 100000`. -/
def Interval.ceiling (i : Interval) : Int :=
  ((i.high.log2 : Int) + 1 + i.scale) * 30103 / 100000 + 1

/-- The digits `d` and exponent `k` of the shortest decimal `d · 10 ^ k` that reads back as the
positive finite number `x`.  Seventeen digits always do, so twenty-four grids are enough. -/
def decimal (x : Binary64) : Nat × Int :=
  let i := Interval.around x
  search i 24 i.ceiling

end Shortest

/-- How a floating point number is written. -/
structure FloatStyle where
  /-- The least decimal exponent that is written positionally. -/
  leastPositional : Int
  /-- The greatest decimal exponent that is written positionally. -/
  greatestPositional : Int
  /-- Whether a whole number keeps a fraction of `.0`. -/
  keepsFraction : Bool
  nan : String
  infinity : String
  deriving Repr

namespace FloatStyle

/-- The text of a value in the program's own listings. -/
def listing : FloatStyle := ⟨-4, 15, true, "nan", "inf"⟩

/-- A part of a complex number: a whole number has no fraction. -/
def complexPart : FloatStyle := ⟨-4, 15, false, "nan", "inf"⟩

/-- A number in a JSON line. -/
def json : FloatStyle := ⟨-4, 15, true, "NaN", "Infinity"⟩

/-- A decimal exponent: sign and at least two digits. -/
def exponentText (e : Int) : String :=
  let digits := toString e.natAbs
  (if e < 0 then "e-" else "e+") ++ (if digits.length < 2 then "0" ++ digits else digits)

/-- The digits of `d · 10 ^ k`, laid out. -/
def layout (style : FloatStyle) (d : Nat) (k : Int) : String :=
  let digits := Nat.toDigits 10 d
  let point := (digits.length : Int) + k
  let e := point - 1
  if style.leastPositional ≤ e ∧ e ≤ style.greatestPositional then
    if point ≤ 0 then
      "0." ++ String.ofList (List.replicate (-point).toNat '0' ++ digits)
    else if (digits.length : Int) ≤ point then
      String.ofList (digits ++ List.replicate (point.toNat - digits.length) '0')
        ++ (if style.keepsFraction then ".0" else "")
    else
      String.ofList (digits.take point.toNat) ++ "." ++ String.ofList (digits.drop point.toNat)
  else
    let fraction := digits.drop 1
    String.ofList (digits.take 1)
      ++ (if fraction.isEmpty then "" else "." ++ String.ofList fraction) ++ exponentText e

/-- The text of a number without its sign. -/
def magnitudeText (style : FloatStyle) (x : Binary64) : String :=
  if x.isNaN then style.nan
  else if x.isInfinite then style.infinity
  else if x.isZero then (if style.keepsFraction then "0.0" else "0")
  else
    let (d, k) := Shortest.decimal x
    style.layout d k

/-- The text of a number; a NaN has no sign. -/
def text (style : FloatStyle) (x : Binary64) : String :=
  (if x.negative && !x.isNaN then "-" else "") ++ style.magnitudeText x

end FloatStyle

end RowInsert
