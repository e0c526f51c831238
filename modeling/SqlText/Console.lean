import SqlText.Text.Pieces

/-!
# Printing to a console

A console shows a statement on a line of its own, or line by line in its full width between two
rules.
-/

set_option autoImplicit false

namespace SqlText.Console

/-- The number of columns of a console. -/
def width : Nat := 80

/-- A text on a line of its own. -/
def line (text : Text) : Text := text ++ ['\n']

/-- A line without blank characters at its end, filled up to the full width. -/
def filled (text : Text) : Text :=
  text.trimEnd ++ List.replicate (width - text.trimEnd.length) ' '

/-- A line across the console. -/
def rule : Text := List.replicate width '─'

/-- The lines of a text between two rules. -/
def framed (text : Text) : Text :=
  line rule ++ (text.pieces '\n').flatMap (fun piece => line (filled piece)) ++ line rule

end SqlText.Console
