import SqlText.Decimal
import SqlText.Failure
import SqlText.Value

/-!
# Conversions of a template

A conversion writes one value: as a text, as messages show it, as one character, as a whole number
in some base, or as a number with a point. `Format` holds what stands between the percent sign and
the letter of a conversion: how the place is filled and how much of the value is written.

A character may be given by a code point that is only half of a character. What is written is
therefore a list of code points, and only the finished message is read as characters
(`charactersOf`).
-/

set_option autoImplicit false

namespace SqlText.Template

/-! ## Code points -/

/-- The code points of a text. -/
def codesOf (text : Text) : List Nat := text.map Char.toNat

/-- Whether a code point is only half of a character. -/
def isHalf (code : Nat) : Bool := decide (0xd800 ≤ code) && decide (code ≤ 0xdfff)

/-- The text of code points, none of which may be half of a character. -/
def charactersOf (codes : List Nat) : Except Failure Text :=
  match codes.dropWhile (fun code => !isHalf code) with
  | [] => .ok (codes.map Char.ofNat)
  | rest =>
      .error (.template (.halves (codes.length - rest.length) (rest.takeWhile isHalf)))

/-! ## Places -/

/-- How a conversion fills its place. -/
structure Format where
  leftAligned : Bool := false
  signed : Bool := false
  spaced : Bool := false
  alternate : Bool := false
  zeroPadded : Bool := false
  width : Nat := 0
  precision : Option Nat := none
deriving DecidableEq, Repr

namespace Format

/-- The least width that can be given. Its size is one more than the greatest width, and so it
counts as none. -/
def leastWidth : Int := -Int.pow 2 63

/-- The format of the given width. A negative one asks for the left side of its place. -/
def withWidth (format : Format) (width : Int) : Format :=
  if width = leastWidth then { format with leftAligned := true, width := 0 }
  else if width < 0 then { format with leftAligned := true, width := width.natAbs }
  else { format with width := width.natAbs }

/-- Code points filled up to the width with spaces. -/
def fill (format : Format) (codes : List Nat) : List Nat :=
  let padding := List.replicate (format.width - codes.length) ' '.toNat
  if format.leftAligned then codes ++ padding else padding ++ codes

/-- A text cut by the precision, filled up to the width. -/
def text (format : Format) (text : Text) : List Nat :=
  format.fill
    (codesOf
      (match format.precision with
        | some precision => text.take precision
        | none => text))

/-- A number by its sign, the mark of its base and its digits, filled up to the width with spaces
or with zeros before the digits. -/
def number (format : Format) (negative : Bool) (mark digits : Text) : List Nat :=
  let sign : Text :=
    if negative then ['-'] else if format.signed then ['+'] else if format.spaced then [' '] else []
  if format.zeroPadded && !format.leftAligned then
    let used := sign.length + mark.length + digits.length
    codesOf (sign ++ mark ++ List.replicate (format.width - used) '0' ++ digits)
  else format.fill (codesOf (sign ++ mark ++ digits))

end Format

/-! ## Conversions by their letters -/

/-- A text with the characters outside ASCII written by their code points. -/
def asciiOnly (text : Text) : Text :=
  text.flatMap fun c =>
    if c.toNat < 0x80 then [c]
    else if c.toNat < 0x100 then '\\' :: 'x' :: Text.hex 2 c.toNat
    else if c.toNat < 0x10000 then '\\' :: 'u' :: Text.hex 4 c.toNat
    else '\\' :: 'U' :: Text.hex 8 c.toNat

/-- The number that a value has to be. -/
def numberOf (value : Value) : Except Failure Int :=
  match value.number? with
  | some number => .ok number
  | none => .error .badArguments

/-- The code point that a value stands for: that of its only character, or the number itself. -/
def codeOf (value : Value) : Except Failure Nat :=
  match value with
  | .text [c] => .ok c.toNat
  | value => do
      let code ← numberOf value
      if 0 ≤ code ∧ code < 0x110000 then pure code.toNat
      else .error (.template .noCharacter)

/-- The number of characters that a place may have. -/
def longest : Nat := Nat.pow 2 30

/-- The digits of a number in a base, filled up with zeros to the precision, which has a limit of
its own. -/
def Format.digits (format : Format) (base : Nat) (number : Int) : Except Failure Text :=
  let least := format.precision.getD 0
  if Nat.pow 2 31 - 4 < least then .error (.template .manyDigits)
  else if longest < least then .error (.template .tooLong)
  else
    let digits := Nat.toDigits base number.natAbs
    .ok (Decimal.zeros (least - digits.length) ++ digits)

/-- A whole number in the base of a letter. Bases other than ten have a mark in the alternate
form. -/
def Format.whole (format : Format) (letter : Char) (number : Int) : Except Failure (List Nat) := do
  let negative := decide (number < 0)
  let mark : Text := if format.alternate then ['0', letter] else []
  match letter with
  | 'o' => pure (format.number negative mark (← format.digits 8 number))
  | 'x' => pure (format.number negative mark (← format.digits 16 number))
  | 'X' => pure (format.number negative mark ((← format.digits 16 number).map Char.toUpper))
  | _ => pure (format.number negative [] (← format.digits 10 number))

/-- A number with a point. A capital letter asks for capital letters. -/
def Format.pointed (format : Format) (style : Decimal.Style) (isCapital : Bool) (number : Int) :
    Except Failure (List Nat) :=
  match Decimal.nearest? number.natAbs with
  | none => .error (.template .hugeNumber)
  | some size =>
      let precision := format.precision.getD 6
      if longest < precision ∧ (style ≠ .general ∨ format.alternate) then
        .error (.template .tooLong)
      else
        let text := Decimal.render style format.alternate precision size
        .ok
          (format.number (decide (number < 0)) []
            (if isCapital then text.map Char.toUpper else text))

/-- The style of a letter that asks for a number with a point. -/
def styleOf? : Char → Option Decimal.Style
  | 'f' | 'F' => some .fixed
  | 'e' | 'E' => some .scientific
  | 'g' | 'G' => some .general
  | _ => none

/-- The value of a conversion by its letter, which stands at the given position. -/
def convert (format : Format) (letter : Char) (position : Nat) (value : Value) :
    Except Failure (List Nat) :=
  match letter with
  | 's' => .ok (format.text value.shown)
  | 'r' => .ok (format.text value.quoted)
  | 'a' => .ok (format.text (asciiOnly value.quoted))
  | 'c' => do pure (format.fill [← codeOf value])
  | letter =>
      match styleOf? letter with
      | some style => do format.pointed style letter.isUpper (← numberOf value)
      | none =>
          if letter ∈ ['d', 'i', 'u', 'o', 'x', 'X'] then do
            format.whole letter (← numberOf value)
          else .error (.template (.unknownConversion letter position))

end SqlText.Template
