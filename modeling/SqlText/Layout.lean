import SqlText.Text.Blank

/-!
# Layouts

A layout is the four texts that decide how a statement is laid out. Every clause ends with the
space and the line break of the layout, its terminator. The compact layout has an empty line
break and puts a statement on one line, the pretty layout breaks it into indented lines.

A statement that stands inside another one is laid out one level deeper, with the nested layout:
its line breaks, and the separators that hold one, carry one more indent. A layout without line
breaks has no lines to indent and nests as itself.
-/

set_option autoImplicit false

namespace SqlText

/-- The texts between the tokens, items, lines and levels of a statement. -/
structure Layout where
  itemSeparator : Text := ", ".toList
  lineBreak : Text := []
  indent : Text := []
  space : Text := " ".toList
deriving DecidableEq, Repr

namespace Layout

/-- Everything on one line. -/
def compact : Layout := {}

/-- A clause a line, and an item a line within a clause. -/
def pretty : Layout :=
  { itemSeparator := ",\n".toList, lineBreak := "\n".toList, indent := "  ".toList }

/-- Whether the layout breaks lines. -/
def isMultiline (layout : Layout) : Bool := !layout.lineBreak.isEmpty

/-- The layout of a statement one level deeper. -/
def nested (layout : Layout) : Layout :=
  if layout.isMultiline then
    { layout with
      itemSeparator := layout.itemSeparator ++ layout.indent
      lineBreak := layout.lineBreak ++ layout.indent }
  else layout

/-- The layout of a statement the given number of levels deeper. -/
def deeper (layout : Layout) : Nat → Layout
  | 0 => layout
  | levels + 1 => (layout.deeper levels).nested

/-- What ends every clause. -/
def terminator (layout : Layout) : Text := layout.space ++ layout.lineBreak

end Layout
end SqlText
