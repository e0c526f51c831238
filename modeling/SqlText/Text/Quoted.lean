import SqlText.Text.Printable

/-!
# Quoted texts

A quoted text stands between two equal quote marks. The marks are apostrophes, unless the text
holds an apostrophe and no double quote. Inside, the mark in use and the backslash follow a
backslash, tab, line feed and carriage return are written by a letter, and any other character
that is not printable by its code point in hexadecimal, with two, four or eight digits.
-/

set_option autoImplicit false

namespace SqlText.Text

/-- A number in hexadecimal with at least `width` digits. -/
def hex (width number : Nat) : Text :=
  let digits := Nat.toDigits 16 number
  List.replicate (width - digits.length) '0' ++ digits

/-- The mark around a quoted text. -/
def quoteMark (text : Text) : Char :=
  if '\'' ∈ text ∧ '"' ∉ text then '"' else '\''

/-- One character of a text quoted with the given mark. -/
def quotedChar (mark c : Char) : Text :=
  if c = mark ∨ c = '\\' then ['\\', c]
  else if c = '\t' then ['\\', 't']
  else if c = '\n' then ['\\', 'n']
  else if c = '\r' then ['\\', 'r']
  else if isPrintable c then [c]
  else if c.toNat < 0x100 then '\\' :: 'x' :: hex 2 c.toNat
  else if c.toNat < 0x10000 then '\\' :: 'u' :: hex 4 c.toNat
  else '\\' :: 'U' :: hex 8 c.toNat

/-- The text between quote marks. -/
def quoted (text : Text) : Text :=
  let mark := quoteMark text
  mark :: text.flatMap (quotedChar mark) ++ [mark]

end SqlText.Text
