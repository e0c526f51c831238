import SqlText.Accumulation
import SqlText.Layout

/-!
# The text of one clause

A `Part` is what a clause has to say before a layout is chosen: a keyword with items, a list of
conditions, queries in parentheses, and so on. `Part.render` lays it out. A part with nothing to
say renders to the empty text, whatever keyword it has, and every other part ends with the
layout's terminator, so that parts can be written one after another.

Raw text around a clause is written in the same way (`Layout.rawText`): each fragment ends with
the terminator.
-/

set_option autoImplicit false

namespace SqlText

/-! ## Pieces of a layout -/

namespace Layout

/-- A text, unless it is empty, and the terminator after it. -/
def terminated (layout : Layout) (text : Text) : Text :=
  if text = [] then [] else text ++ layout.terminator

/-- The fragments that are not empty, each ended by the terminator. -/
def rawText (layout : Layout) (fragments : List Text) : Text :=
  layout.terminated (Text.join layout.terminator (fragments.filter (· ≠ [])))

/-- A fragment between the raw text before it and the raw text after it. -/
def wrapped (layout : Layout) (before : List Text) (fragment : Text) (after : List Text) : Text :=
  layout.rawText before ++ fragment ++ layout.rawText after

/-- A condition list: the first condition without its operator, and every other one after a line
break, behind the operator that joins it. -/
def conditionLines (layout : Layout) : List Condition → Text
  | [] => []
  | (_, first) :: rest =>
      layout.indent ++ first ++
        rest.flatMap fun (operator, condition) =>
          layout.terminator ++ layout.indent ++ operator.word ++ layout.space ++ condition

end Layout

/-! ## Parts -/

/-- One of the groups of a parameter list: its entries, each a few words, and the raw text around
them. -/
structure ParameterGroup where
  before : List Text
  entries : List (List Text)
  after : List Text

namespace ParameterGroup

/-- The group in a layout: raw text, entries and raw text with a space between what is there. -/
def render (layout : Layout) (group : ParameterGroup) : Text :=
  let entries := group.entries.map (Text.join layout.space)
  Text.join layout.space
    ([Text.join layout.space group.before,
      Text.join layout.nested.itemSeparator entries,
      Text.join layout.space group.after].filter (· ≠ []))

end ParameterGroup

/-- The content of one clause as it is written. -/
inductive Part where
  /-- Words in a row. -/
  | words (words : List Text)
  /-- A keyword with a list of items. -/
  | list (keyword : Text) (items : List Text)
  /-- Items on lines of their own, without a keyword. -/
  | lines (items : List Text)
  /-- A keyword with a list of conditions. -/
  | conditions (keyword : Text) (conditions : List Condition)
  /-- A list of items in parentheses, after a keyword unless that is empty. -/
  | enclosed (keyword : Text) (items : List Text)
  /-- Items of a keyword and a text each, indented. -/
  | actions (actions : List (Text × Text))
  /-- Named queries, each laid out one level deeper. -/
  | queries (queries : List (Text × Text))
  /-- The text of a statement. -/
  | embedded (text : Text)
  /-- The groups of a parameter list in one pair of parentheses. -/
  | parameters (groups : List ParameterGroup)
  /-- The text of a command with the semicolon that ends it. -/
  | command (text : Text)

namespace Part

/-- A keyword with a single value, and nothing at all when the value is empty. -/
def single (keyword value : Text) : Part :=
  if value = [] then .words [] else .words [keyword, value]

/-- A keyword alone, or nothing. -/
def flag (keyword : Text) (isSet : Bool) : Part :=
  if isSet then .words [keyword] else .words []

/-- A named query in parentheses, its text on lines of its own one level deeper. -/
def renderQuery (layout nested : Layout) (name text : Text) : Text :=
  name ++ layout.space ++ "AS".toList ++ layout.space ++ '(' :: nested.lineBreak ++ text ++
    layout.lineBreak ++ [')']

/-- Named queries in a layout, each laid out in the nested one. -/
def renderQueries (layout nested : Layout) (entries : List (Text × Text)) : Text :=
  match (entries.map fun (name, text) => (name, text.trim)).filter (·.2 ≠ []) with
  | [] => []
  | entries =>
      "WITH".toList ++ layout.terminator ++
        Text.join layout.itemSeparator
          (entries.map fun (name, text) => renderQuery layout nested name text) ++
        layout.terminator

/-- The part in a layout. -/
def render (layout : Layout) : Part → Text
  | .words [] => []
  | .words texts => Text.join layout.space texts ++ layout.terminator
  | .list keyword items =>
      match items.filter (· ≠ []) with
      | [] => []
      | items =>
          keyword ++ layout.space ++ Text.join layout.itemSeparator items ++ layout.terminator
  | .lines [] => []
  | .lines items => Text.join layout.terminator items ++ layout.terminator
  | .conditions _ [] => []
  | .conditions keyword entries =>
      keyword ++ layout.terminator ++ layout.conditionLines entries ++ layout.terminator
  | .enclosed _ [] => []
  | .enclosed keyword items =>
      (if keyword = [] then [] else keyword ++ layout.space) ++
        '(' :: Text.join layout.itemSeparator items ++ ')' :: layout.terminator
  | .actions [] => []
  | .actions entries =>
      Text.join layout.itemSeparator
        (entries.map fun (keyword, text) => layout.indent ++ keyword ++ layout.space ++ text) ++
        layout.terminator
  | .queries entries => renderQueries layout layout.nested entries
  | .embedded text => layout.terminated text.trim
  | .parameters groups =>
      match (groups.map (ParameterGroup.render layout)).filter (· ≠ []) with
      | [] => []
      | groups =>
          '(' :: layout.lineBreak ++ layout.indent ++
            Text.join layout.nested.itemSeparator groups ++
            layout.lineBreak ++ ')' :: layout.terminator
  | .command text =>
      if text.trim = [] then [] else text.trim ++ ';' :: layout.terminator

end Part
end SqlText
