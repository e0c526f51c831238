import SqlText.Text.Blank

/-!
# Column lists in parentheses

A column list may be given with its parentheses or without. A text that holds an opening
parenthesis anywhere counts as given with them.
-/

set_option autoImplicit false

namespace SqlText.Text

/-- The text, put in parentheses unless it holds an opening one. -/
def parenthesized (text : Text) : Text :=
  if '(' ∈ text then text else '(' :: text ++ [')']

end SqlText.Text
