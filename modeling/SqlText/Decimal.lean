import SqlText.Text.Blank

/-!
# Whole numbers with a point

A whole number may be written with a point: with a fixed number of digits after it, by its leading
digits and a power of ten, or in whichever of the two ways is shorter. It is brought to 53 binary
digits before that (`nearest?`), so a long number may be written as one of its neighbours, and a
number with more than 1024 binary digits cannot be written at all.

Wherever digits are dropped the result is the nearest one, and of two equally near ones the even
one (`roundDiv`).
-/

set_option autoImplicit false

namespace SqlText.Decimal

/-! ## Rounding -/

/-- The quotient of two numbers, rounded to the nearest whole number. A half goes to the even
neighbour. -/
def roundDiv (number unit : Nat) : Nat :=
  let quotient := number / unit
  let rest := 2 * (number % unit)
  if rest < unit ∨ (rest = unit ∧ quotient % 2 = 0) then quotient else quotient + 1

/-- The nearest number whose binary digits after the first 53 are zeros, unless it has more than
1024 of them. -/
def nearest? (number : Nat) : Option Nat :=
  let unit := Nat.pow 2 (number.log2 + 1 - 53)
  let rounded := roundDiv number unit * unit
  if rounded < Nat.pow 2 1024 then some rounded else none

/-- The leading digits of a number, at most `count` of them, and the power of ten that the first
one stands for. -/
def leading (count number : Nat) : Text × Nat :=
  let digits := Nat.toDigits 10 number
  if digits.length ≤ count then (digits, digits.length - 1)
  else
    let rounded := Nat.toDigits 10 (roundDiv number (Nat.pow 10 (digits.length - count)))
    (rounded.take count, digits.length - 1 + (rounded.length - count))

/-! ## Writing -/

/-- The ways to write a number with a point. -/
inductive Style where
  /-- As many digits after the point as the precision says. -/
  | fixed
  /-- One digit before the point, as many after it as the precision says, and a power of ten. -/
  | scientific
  /-- As many digits in all as the precision says, without the zeros at the end, and with a power
  of ten only where the digits do not reach the point. -/
  | general
deriving DecidableEq, Repr

/-- A run of zeros. -/
def zeros (count : Nat) : Text := List.replicate count '0'

/-- The point and the digits after it. A point without digits is written only if it is kept. -/
def fraction (keepsPoint : Bool) (digits : Text) : Text :=
  if digits = [] ∧ keepsPoint = false then [] else '.' :: digits

/-- A power of ten, with at least two digits. -/
def power (exponent : Nat) : Text :=
  let digits := Nat.toDigits 10 exponent
  'e' :: '+' :: zeros (2 - digits.length) ++ digits

/-- Digits with the point after the first of them, and a power of ten. -/
def scientific (keepsPoint : Bool) (digits : Text) (exponent : Nat) : Text :=
  digits.take 1 ++ fraction keepsPoint (digits.drop 1) ++ power exponent

/-- Digits with zeros after them, at least `count` in all. -/
def padded (count : Nat) (digits : Text) : Text := digits ++ zeros (count - digits.length)

/-- Digits without the zeros at their end. -/
def stripped (digits : Text) : Text := (digits.reverse.dropWhile (· = '0')).reverse

/-- A number in a style. A kept point also keeps the zeros at the end. -/
def render (style : Style) (keepsPoint : Bool) (precision number : Nat) : Text :=
  match style with
  | .fixed => Nat.toDigits 10 number ++ fraction keepsPoint (zeros precision)
  | .scientific =>
      let (digits, exponent) := leading (precision + 1) number
      scientific keepsPoint (padded (precision + 1) digits) exponent
  | .general =>
      let count := max precision 1
      let (digits, exponent) := leading count number
      if exponent < count then
        digits ++ fraction keepsPoint (if keepsPoint then zeros (count - digits.length) else [])
      else
        scientific keepsPoint (if keepsPoint then padded count digits else stripped digits)
          exponent

end SqlText.Decimal
