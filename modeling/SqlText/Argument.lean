import SqlText.Render.Course
import SqlText.Text.Pieces
import SqlText.Value

/-!
# Arguments of a call

An argument is a plain value, the member of one of the enumerations (a clause of some kind, a
feature, a command, an operator), a command, a content that is the same in every layout, a
statement, or anything else, of which only its type and how it is shown are known. Each of them
stands for a text where a fragment is expected: a statement stands for its own text on one line, as
it is at the time of the call, and is rendered each time its text is asked for. A value that has no
text fails then. Statements, commands and fixed contents can also be put inside a statement. A
command may be given any plain value for its own argument, which is shown as it was given; put
inside a statement, the empty values leave the keyword alone.

Among the arguments of a call on a statement there can also be the statement itself, which may be
another one each time it is met (`Mention`).
-/

set_option autoImplicit false

namespace SqlText

/-- A member of one of the enumerations. -/
inductive Member where
  | clause (kind : Kind) (clause : Clause)
  | feature (feature : Feature)
  | command (kind : CommandKind)
  | operator (operator : Operator)
deriving DecidableEq, Repr

namespace Member

/-- The enumeration that the member belongs to. -/
def family : Member → String
  | .clause kind _ => kind.clauseFamily
  | .feature _ => "Feature"
  | .command _ => "TransactionCommandKind"
  | .operator _ => "LogicalOperator"

/-- The value that the member stands for. -/
def value : Member → Text
  | .clause _ place => place.name.toList
  | .feature capability => capability.name.toList
  | .command kind => kind.word
  | .operator joining => joining.word

/-- The member's name within its enumeration. -/
def name : Member → Text
  | .clause _ place => place.upperName
  | .feature capability => capability.name.toList.map Char.toUpper
  | .command kind => kind.name
  | .operator joining => joining.word

/-- The enumeration and the name, with a dot between them. -/
def path (member : Member) : Text := member.family.toList ++ '.' :: member.name

/-- The text that the member stands for: features and operators stand for their value. -/
def shown : Member → Text
  | .feature capability => capability.name.toList
  | .operator joining => joining.word
  | member => member.path

/-- The member as a message shows it. -/
def quoted (member : Member) : Text :=
  '<' :: member.path ++ ": ".toList ++ member.value.quoted ++ ['>']

/-- Every member once. -/
def all : List Member :=
  Kind.all.flatMap (fun kind => kind.clauses.map (clause kind)) ++ Feature.all.map feature ++
    CommandKind.all.map command ++ [operator .and, operator .or]

/-- The member with the given path. -/
def ofPath? (path : Text) : Option Member := all.find? (·.path = path)

/-- What a path that leads to no member fails for: the enumeration or, if there is such a one, the
name within it. -/
def missing (path : Text) : Text :=
  let (family, name) := (Text.parted? ['.'] path).getD (path, [])
  if all.any (·.family.toList = family) then name else family

end Member

/-- A command with any value for its argument, as a message shows it. -/
def CommandKind.quoted (kind : CommandKind) (argument : Value) : Text :=
  "TransactionCommand(kind=".toList ++ (Member.command kind).quoted ++
    ", argument=".toList ++ argument.quoted ++ ")".toList

/-- The command with any value for its argument. -/
def Command.ofValue (kind : CommandKind) (argument : Value) : Command :=
  ⟨kind, if argument.holds then argument.shown else [], argument.isWritable⟩

/-- What a call is given. -/
inductive Argument where
  | value (value : Value)
  | member (member : Member)
  | command (kind : CommandKind) (argument : Value)
  | fixed (content : Value)
  | statement (statement : Statement)
  | other (typeName : String) (shown : Text)

namespace Argument

/-- The argument as a message shows it. -/
def quoted : Argument → Text
  | .value plain => plain.quoted
  | .member entry => entry.quoted
  | .command kind given => kind.quoted given
  | .fixed content => content.quoted
  | .statement inner => inner.quoted
  | .other _ shown => shown

/-- The text that the argument stands for as a word of a sentence. -/
def shown : Argument → Text
  | .value plain => plain.shown
  | .member entry => entry.shown
  | .command kind given => kind.quoted given
  | .fixed content => content.shown
  | .statement inner => inner.text
  | .other _ shown => shown

/-- The text that the argument stands for as a fragment. -/
def fragment : Argument → Text
  | .value plain => plain.fragment
  | argument => argument.shown

/-- Whether the argument counts as given to a constructor. -/
def holds : Argument → Bool
  | .value plain => plain.holds
  | _ => true

/-- The name of the argument's type. -/
def typeName : Argument → String
  | .value plain => plain.typeName
  | .member entry => entry.family
  | .command .. => "TransactionCommand"
  | .fixed _ => "Text"
  | .statement inner => inner.kind.name
  | .other typeName _ => typeName

/-- The argument as something to put inside a statement. -/
def operand? : Argument → Option (Operand Statement)
  | .statement inner => some (.statement inner)
  | .command kind given => some (.command (.ofValue kind given))
  | .fixed content => some (.fixed content)
  | _ => none

/-- What happens each time the argument's text is asked for. -/
def course : Argument → Course
  | .value plain => Course.ofValue plain
  | .command _ given => Course.ofValue given
  | .fixed content => Course.ofValue content
  | .statement inner => inner.course .compact
  | .member _ | .other .. => []

/-- Whether the argument has a text to give. -/
def isWritable (argument : Argument) : Bool := argument.course.failure?.isNone

end Argument

/-- What stands among the arguments of a call: an argument, or the statement that is called. -/
inductive Mention where
  | argument (argument : Argument)
  | itself

end SqlText
