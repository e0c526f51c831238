import SqlText.LayoutParts

/-!
# Asking for a layout

A layout can be asked for as one that is known, by the parts it differs from the compact layout
in, or as the layout that statements have a number of levels deeper than another one. It has no
other parts than the four of every layout, each of which may be any value.
-/

set_option autoImplicit false

namespace SqlText

/-- The ways to ask for a layout. -/
inductive LayoutSource where
  /-- A layout. -/
  | known (layout : Layout)
  /-- The compact layout with other values in place of the parts that are named. -/
  | parts (parts : List (Text × Value))
  /-- What statements have a number of levels deeper. -/
  | deeper (source : LayoutSource) (levels : Value)

/-- The number of levels that a value stands for; there are no fewer than none. -/
def Value.levels (value : Value) : Except Failure Nat :=
  match value.number? with
  | some number => .ok number.toNat
  | .none => .error .badArguments

namespace LayoutParts

/-- The parts with another value for the named one. -/
def replace (given : LayoutParts) (name : Text) (part : Value) : Except Failure LayoutParts :=
  if name = "item_separator".toList then .ok { given with itemSeparator := part }
  else if name = "line_break".toList then .ok { given with lineBreak := part }
  else if name = "indent".toList then .ok { given with indent := part }
  else if name = "space".toList then .ok { given with space := part }
  else .error .badArguments

/-- The parts with other values for those that are named. -/
def replaceAll (given : LayoutParts) : List (Text × Value) → Except Failure LayoutParts
  | [] => .ok given
  | (name, part) :: rest => do (← given.replace name part).replaceAll rest

end LayoutParts

namespace LayoutSource

/-- The parts of the layout that a source asks for. -/
def resolve : LayoutSource → Except Failure LayoutParts
  | known layout => .ok (.ofLayout layout)
  | parts named => LayoutParts.compact.replaceAll named
  | deeper source levels => do
      let given ← source.resolve
      given.deeper (← levels.levels)

end LayoutSource
end SqlText
