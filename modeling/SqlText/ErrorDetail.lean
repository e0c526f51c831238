import SqlText.Failure
import SqlText.Value

/-!
# The parts of an error

An error has a detail, a text that says what is wrong, and further texts. It is made from any
values; those that count are turned into texts, and the first of them is the detail unless the
detail is given apart. The error as a whole reads as the further texts and then the detail.

There are four families of errors. An error of a statement has one message of its own wording, and
an error about a missing feature words its message from the feature and the dialect.
-/

set_option autoImplicit false

namespace SqlText

/-- The families of errors. -/
inductive ErrorFamily where
  | general
  | configuration
  | building
  | feature
deriving DecidableEq, Repr

namespace ErrorFamily

/-- Every family once. -/
def all : List ErrorFamily := [general, configuration, building, feature]

/-- The name of the family. -/
def name : ErrorFamily → String
  | general => "SQLStitchError"
  | configuration => "ImproperConfigurationError"
  | building => "SQLBuilderError"
  | feature => "UnsupportedDialectFeatureError"

/-- The family of the given name. -/
def ofName? (name : Text) : Option ErrorFamily := all.find? (·.name.toList = name)

/-- The families that an error of the family belongs to, the narrowest first. -/
def ancestors : ErrorFamily → List ErrorFamily
  | general => [general]
  | configuration => [configuration, general]
  | building => [building, general]
  | feature => [feature, building, general]

end ErrorFamily

/-- An error with its detail and its further texts. -/
structure ErrorDetail where
  family : ErrorFamily
  detail : Value
  texts : List Text

namespace ErrorDetail

/-- The error of a family that takes any values and a detail. -/
def general (family : ErrorFamily) (values : List Value) (detail : Value) : ErrorDetail :=
  let texts := (values.filter Value.holds).map Value.shown
  if detail.holds then ⟨family, detail, texts⟩
  else
    match texts with
    | [] => ⟨family, detail, []⟩
    | first :: rest => ⟨family, .text first, rest⟩

/-- The error with a single message. -/
def message (family : ErrorFamily) (message : Value) : ErrorDetail :=
  general family [message] (.text [])

/-- The message of an error that is given none. -/
def unworded : Value := .text "Issues assembling SQL statement.".toList

/-- The message about a missing feature. -/
def missing (feature dialect : Value) : Value :=
  .text
    ("Feature ".toList ++ feature.quoted ++ " is not available for dialect ".toList ++
      dialect.quoted)

/-- The error that a family makes from values and, unless it is left out, a detail. -/
def make (family : ErrorFamily) (values : List Value) (detail : Option Value) :
    Except Failure ErrorDetail :=
  match family, values, detail with
  | .general, values, detail => .ok (general .general values (detail.getD (.text [])))
  | .configuration, values, detail => .ok (general .configuration values (detail.getD (.text [])))
  | .building, [], none => .ok (message .building unworded)
  | .building, [.none], none => .ok (message .building unworded)
  | .building, [value], none => .ok (message .building value)
  | .feature, [feature, dialect], none => .ok (message .feature (missing feature dialect))
  | _, _, _ => .error .badArguments

/-- The error as a whole. A detail that is no text cannot be read with the rest. -/
def text (error : ErrorDetail) : Except Failure Text :=
  match error.detail with
  | .text detail => .ok (Text.trim (Text.join [' '] (error.texts ++ [detail])))
  | _ => .error .badArguments

/-- The family and the detail, as a message shows the error. -/
def quoted (error : ErrorDetail) : Text :=
  if error.detail.holds then
    error.family.name.toList ++ " - ".toList ++ error.detail.shown
  else error.family.name.toList

end ErrorDetail
end SqlText
