import SqlText.Text.Blank

/-!
# Taking a text apart

A text falls into pieces at the occurrences of a character, which belong to no piece. There is one
piece more than there are occurrences, so even the empty text has one. At the first occurrence of
another text it falls into what is before and what is after it.
-/

set_option autoImplicit false

namespace SqlText.Text

/-- The pieces of a text between the occurrences of a character. -/
def pieces (separator : Char) : Text → List Text
  | [] => [[]]
  | c :: rest =>
      if c = separator then [] :: pieces separator rest
      else
        match pieces separator rest with
        | [] => [[c]]
        | first :: others => (c :: first) :: others

/-- What is before the first occurrence of a separator and what is after it, if it occurs. -/
def parted? (separator : Text) : Text → Option (Text × Text)
  | [] => if separator.isEmpty then some ([], []) else none
  | c :: rest =>
      if separator.isPrefixOf (c :: rest) then some ([], (c :: rest).drop separator.length)
      else (parted? separator rest).map fun (before, after) => (c :: before, after)

end SqlText.Text
