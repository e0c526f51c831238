import SqlText.Render.Part

/-!
# Combining queries

Set operations are applied one after another to the text before them. Each puts what is there and
its operand in parentheses, so the first operation ends up innermost. A side that is blank takes
no part: the other side is left as it is, without keyword and parentheses.

The raw text before a kind of operation stands inside the left side of its first operation, and
the raw text after a kind follows its last one. A kind without an operation has its raw text at
the end. The operations are keyed by any type, with the keyword and the raw text of each key.
-/

set_option autoImplicit false

namespace SqlText

variable {κ : Type} [DecidableEq κ]

/-- Two sides joined by a keyword, or the side that is not empty. -/
def Layout.combined (layout : Layout) (keyword left right : Text) : Text :=
  if left = [] then layout.terminated right
  else if right = [] then layout.terminated left
  else
    '(' :: left ++ ')' :: layout.terminator ++ keyword ++ layout.space ++ '(' :: right ++
      ')' :: layout.terminator

/-- What set operations are written with: the keyword of each key, and its raw text. -/
structure Combination (κ : Type) where
  keyword : κ → Text
  before : κ → List Text
  after : κ → List Text

namespace Combination

/-- The left side of an operation: the text so far, and the raw text before its kind if the kind
has not been seen yet. -/
def leftSide (combination : Combination κ) (layout : Layout) (seen : List κ) (text : Text)
    (key : κ) : Text :=
  if key ∈ seen then text.trim
  else
    (text.trim ++ layout.space ++ Text.join layout.space (combination.before key)).trim

/-- The text after one operation: it is preceded by those of the keys in `seen`, and followed by
those of the keys in `later`. -/
def step (combination : Combination κ) (layout : Layout) (seen later : List κ) (text : Text)
    (key : κ) (operand : Text) : Text :=
  let combined :=
    layout.combined (combination.keyword key) (combination.leftSide layout seen text key)
      operand.trim
  if key ∈ later then combined else combined ++ layout.rawText (combination.after key)

/-- The text after the operations, of which those of the keys in `seen` went before. -/
def apply (combination : Combination κ) (layout : Layout) (seen : List κ) (text : Text) :
    List (κ × Text) → Text
  | [] => text
  | (key, operand) :: rest =>
      combination.apply layout (key :: seen)
        (combination.step layout seen (rest.map Prod.fst) text key operand) rest

/-- The raw text of a key without an operation. -/
def unused (combination : Combination κ) (layout : Layout) (used : List κ) (key : κ) : Text :=
  if key ∈ used then []
  else layout.wrapped (combination.before key) [] (combination.after key)

/-- The text combined with the operands, the raw text of every key included. -/
def render (combination : Combination κ) (layout : Layout) (keys : List κ) (text : Text)
    (operations : List (κ × Text)) : Text :=
  combination.apply layout [] text operations ++
    keys.flatMap (combination.unused layout (operations.map Prod.fst))

end Combination
end SqlText
