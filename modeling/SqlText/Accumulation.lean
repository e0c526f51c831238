import SqlText.Text.Blank

/-!
# How a clause collects its fragments

A clause keeps one of four kinds of content: a single fragment that each call replaces, a list
that takes a fragment once, a list of conditions that takes a condition once for each operator,
and raw text, which is kept for each clause and may repeat. In all of them a fragment is trimmed
first, and a fragment of which nothing is left adds nothing.

Raw text is kept as a list of clauses in the order of their first fragment. A clause that has no
fragment is not in the list (`RawText.get` is empty there).
-/

set_option autoImplicit false

namespace SqlText

/-- The list with the trimmed fragment at its end, unless the fragment is empty or already there. -/
def pushUnique (items : List Text) (fragment : Text) : List Text :=
  let text := fragment.trim
  if text = [] ∨ text ∈ items then items else items ++ [text]

/-- The list after every fragment, from the left. -/
def pushAll (items : List Text) (fragments : List Text) : List Text :=
  fragments.foldl pushUnique items

/-- How a condition joins the one before it. -/
inductive Operator where
  | and
  | or
deriving DecidableEq, Repr

namespace Operator

/-- The operator's keyword. -/
def name : Operator → String
  | .and => "AND"
  | .or => "OR"

/-- The operator with the given keyword, in upper case only. -/
def ofName? (name : Text) : Option Operator := [and, or].find? (·.name.toList = name)

/-- The operator's keyword as a text. -/
def word (operator : Operator) : Text := operator.name.toList

end Operator

/-- A condition and the operator before it; the first operator of a list is never written. -/
abbrev Condition := Operator × Text

/-- The conditions with one more at the end, unless it is empty or already there under the same
operator. -/
def pushCondition (conditions : List Condition) (operator : Operator) (fragment : Text) :
    List Condition :=
  let text := fragment.trim
  if text = [] ∨ (operator, text) ∈ conditions then conditions
  else conditions ++ [(operator, text)]

/-- The conditions after every fragment, from the left. -/
def pushConditions (conditions : List Condition) (operator : Operator) (fragments : List Text) :
    List Condition :=
  fragments.foldl (fun list fragment => pushCondition list operator fragment) conditions

/-- Raw fragments by clause, in the order in which the clauses got their first one. -/
abbrev RawText (κ : Type) := List (κ × List Text)

namespace RawText

variable {κ : Type} [DecidableEq κ]

/-- The fragments of a clause. -/
def get (raw : RawText κ) (clause : κ) : List Text := (raw.lookup clause).getD []

/-- The raw text with one more fragment, already trimmed and not empty, at the clause. -/
def add : RawText κ → κ → Text → RawText κ
  | [], clause, text => [(clause, [text])]
  | (other, texts) :: rest, clause, text =>
      if other = clause then (other, texts ++ [text]) :: rest
      else (other, texts) :: add rest clause text

/-- The raw text with the trimmed fragment at the clause, unless the fragment is empty. -/
def push (raw : RawText κ) (clause : κ) (fragment : Text) : RawText κ :=
  let text := fragment.trim
  if text = [] then raw else raw.add clause text

/-- The raw text after every fragment, from the left. -/
def pushAll (raw : RawText κ) (clause : κ) (fragments : List Text) : RawText κ :=
  fragments.foldl (fun raw fragment => raw.push clause fragment) raw

end RawText
end SqlText
