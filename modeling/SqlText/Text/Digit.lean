import SqlText.Text.Pieces

/-!
# Digits and whole numbers

A whole number is written in digits, after a sign or without one. The digits may be those of any
script, also of several in one number, and an underscore may stand between two of them. Blank
characters may surround the number, but not those that separate records (U+001C to U+001F).

The ten digits of a script follow one another from its zero on, so the table holds the zeros.
-/

set_option autoImplicit false

namespace SqlText.Text

/-- The zeros of the scripts. -/
def zeros : List Nat :=
  [0x30, 0x660, 0x6f0, 0x7c0, 0x966, 0x9e6, 0xa66, 0xae6, 0xb66, 0xbe6, 0xc66, 0xce6, 0xd66,
   0xde6, 0xe50, 0xed0, 0xf20, 0x1040, 0x1090, 0x17e0, 0x1810, 0x1946, 0x19d0, 0x1a80, 0x1a90,
   0x1b50, 0x1bb0, 0x1c40, 0x1c50, 0xa620, 0xa8d0, 0xa900, 0xa9d0, 0xa9f0, 0xaa50, 0xabf0, 0xff10,
   0x104a0, 0x10d30, 0x11066, 0x110f0, 0x11136, 0x111d0, 0x112f0, 0x11450, 0x114d0, 0x11650,
   0x116c0, 0x11730, 0x118e0, 0x11950, 0x11c50, 0x11d50, 0x11da0, 0x16a60, 0x16ac0, 0x16b50,
   0x1d7ce, 0x1d7d8, 0x1d7e2, 0x1d7ec, 0x1d7f6, 0x1e140, 0x1e2f0, 0x1e950, 0x1fbf0]

/-- The digits of the scripts. -/
def isDigit (c : Char) : Bool := inRuns (zeros.map fun first => (first, first + 9)) c.toNat

/-- The characters that separate records. -/
def isSeparator (c : Char) : Bool := inRuns [(0x1c, 0x1f)] c.toNat

/-- The text without the blank characters at its two ends, as far as they do not separate
records. -/
def spaceless (text : Text) : Text :=
  let isSpace (c : Char) : Bool := isBlank c && !isSeparator c
  ((text.dropWhile isSpace).reverse.dropWhile isSpace).reverse

/-- The text without the sign at its start, if it has one. -/
def unsigned : Text → Text
  | '+' :: rest | '-' :: rest => rest
  | text => text

/-- The greatest number of digits that a whole number may have. -/
def mostDigits : Nat := 4300

/-- Whether a text is a whole number. -/
def isWhole (text : Text) : Bool :=
  let groups := pieces '_' (unsigned (spaceless text))
  groups.all (fun group => !group.isEmpty && group.all isDigit) &&
    decide (groups.flatten.length ≤ mostDigits)

end SqlText.Text
