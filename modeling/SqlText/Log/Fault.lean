import SqlText.Text.Quoted

/-!
# Faults of a template

What can be wrong with a message template, or with the values that it is filled in with. Each
fault comes with what its message needs to know.
-/

set_option autoImplicit false

namespace SqlText.Template

/-- The reasons for which a template cannot be filled in. -/
inductive Fault where
  /-- The template ends within a conversion. -/
  | incomplete
  /-- The name of a field is not closed. -/
  | incompleteName
  /-- There is no such conversion. -/
  | unknownConversion (conversion : Char) (position : Nat)
  /-- A written width is too large. -/
  | wideWidth
  /-- A written precision is too large. -/
  | widePrecision
  /-- A width among the values is too large. -/
  | hugeWidth
  /-- A precision among the values is too large. -/
  | hugePrecision
  /-- The precision is too large for a number. -/
  | manyDigits
  /-- The number is too large for a point. -/
  | hugeNumber
  /-- The number is no code point. -/
  | noCharacter
  /-- The text would be too long. -/
  | tooLong
  /-- The code points in a row, from the given position on, are those of halves of characters. -/
  | halves (position : Nat) (codes : List Nat)
deriving DecidableEq, Repr

namespace Fault

/-- The message that a fault is reported with. -/
def message : Fault → Text
  | incomplete => "incomplete format".toList
  | incompleteName => "incomplete format key".toList
  | unknownConversion conversion position =>
      let code := conversion.toNat
      let shown := if 31 ≤ code ∧ code ≤ 126 then conversion else '?'
      "unsupported format character '".toList ++ [shown] ++ "' (0x".toList ++
        Nat.toDigits 16 code ++ ") at index ".toList ++ Nat.toDigits 10 position
  | wideWidth => "width too big".toList
  | widePrecision => "precision too big".toList
  | hugeWidth => "Python int too large to convert to C ssize_t".toList
  | hugePrecision => "Python int too large to convert to C int".toList
  | manyDigits => "precision too large".toList
  | hugeNumber => "int too large to convert to float".toList
  | noCharacter => "%c arg not in range(0x110000)".toList
  | tooLong => []
  | halves position codes =>
      let first := Nat.toDigits 10 position
      (match codes with
        | [code] =>
            "'utf-8' codec can't encode character '\\u".toList ++ Text.hex 4 code ++
              "' in position ".toList ++ first
        | codes =>
            "'utf-8' codec can't encode characters in position ".toList ++ first ++ '-' ::
              Nat.toDigits 10 (position + codes.length - 1)) ++
        ": surrogates not allowed".toList

end Fault
end SqlText.Template
