import SqlText.Dialect.Registry
import SqlText.Log.Event
import SqlText.Statement.Call

/-!
# New statements

A new statement is asked for by its kind, a dialect and the first texts of its opening clause:
any number of columns, rows or names, or one table or index. Where only one text is possible the
dialect may also follow it; it may not be given twice.

A factory has a dialect of its own, which its statements have unless another one is asked for. It
takes the same arguments.
-/

set_option autoImplicit false

namespace SqlText

namespace Kind

/-- The method that the texts of a new statement are given to. -/
def opening : Kind → Option Method
  | select => some .select
  | insert => some .insertInto
  | update => some .update
  | delete => some .deleteFrom
  | values => some .values
  | createTable => some .createTable
  | dropTable => some .dropTable
  | dropIndex => some .dropIndex
  | createIndex => some .createIndex
  | alterTable => some .alterTable
  | transaction => none

/-- The name of a factory's method for statements of the kind. -/
def factoryMethod : Kind → String
  | select => "select"
  | insert => "insert"
  | update => "update"
  | delete => "delete"
  | values => "values"
  | createTable => "create_table"
  | dropTable => "drop_table"
  | dropIndex => "drop_index"
  | createIndex => "create_index"
  | alterTable => "alter_table"
  | transaction => "transaction"

/-- The kind whose statements a factory's method of the given name makes. -/
def ofFactoryMethod? (name : Text) : Option Kind :=
  all.find? fun kind => kind.factoryMethod.toList = name

/-- Whether a new statement takes any number of texts. -/
def takesMany : Kind → Bool
  | select | values | dropTable | dropIndex => true
  | _ => false

end Kind

/-- What a new statement is asked for with. -/
structure Request where
  kind : Kind
  texts : List Argument
  dialect : DialectSource
  /-- What happens when the dialect turns out not to be one. -/
  dialectCourse : Course := []

/-- What is noted when a dialect has been found. -/
def Resolution.events (found : Resolution) : List Event :=
  match found.detour with
  | some shown => [.resolved shown found.dialect.name]
  | none => []

namespace Request

/-- The request that the arguments of a constructor amount to, with the dialect that is named
apart from them, if one is: even the default one may not be named twice. -/
def ofArguments (kind : Kind) (arguments : List Argument) (dialect : Option DialectSource) :
    Except Failure Request :=
  let count := if kind.takesMany then arguments.length else if kind = .transaction then 0 else 1
  match arguments.drop count, dialect with
  | [], dialect => .ok { kind, texts := arguments.take count, dialect := dialect.getD .default }
  | [last], none =>
      .ok
        { kind
          texts := arguments.take count
          dialect := .ofArgument last
          dialectCourse := last.course ++ last.course }
  | _, _ => .error .badArguments

/-- The request as a factory passes it on: with its own dialect where none is asked for, and with
an empty text in place of a single text that does not count. -/
def through (request : Request) (own : Dialect) : Request :=
  { request with
    texts :=
      if request.kind.takesMany then request.texts
      else request.texts.map fun text => if text.holds then text else .value (.text [])
    dialect :=
      match request.dialect with
      | .default => .dialect own
      | dialect => dialect }

/-- The request that the arguments of a factory's method amount to, if the factory has a dialect of
its own. -/
def ofFactory (own : Option Dialect) (kind : Kind) (arguments : List Argument)
    (dialect : Option DialectSource) : Except Failure Request := do
  let request ← ofArguments kind arguments dialect
  match own with
  | some own => pure (request.through own)
  | none => .error .badArguments

/-- The texts that count: a single text does only when it is not one of the empty values. -/
def given (request : Request) : List Argument :=
  if request.kind.takesMany then request.texts else request.texts.filter Argument.holds

/-- The new statement under the dialect that was found. -/
def statement (request : Request) (dialect : Dialect) : Statement :=
  match request.kind.opening, request.given with
  | some method, text :: texts =>
      (Statement.empty request.kind dialect).edit method (fragments (text :: texts))
  | _, _ => Statement.empty request.kind dialect

/-- The course of meeting the request: what is given for a dialect is shown if it is none, and the
texts that count are asked for if the dialect has such statements. -/
def course (request : Request) (registry : Registry) : Course :=
  match request.dialect.resolve registry with
  | .error _ => request.dialectCourse
  | .ok found =>
      if found.dialect.offers request.kind.requirement then
        request.given.flatMap Argument.course
      else []

/-- The new statement that the request asks for. -/
def create (request : Request) (registry : Registry) : Except Failure Statement := do
  (request.course registry).result ()
  let found ← request.dialect.resolve registry
  if found.dialect.offers request.kind.requirement then pure (request.statement found.dialect)
  else .error (.missingKind request.kind found.dialect.name.quoted)

/-- What is noted while the request is met. -/
def events (request : Request) (registry : Registry) : List Event :=
  (match request.dialect.resolve registry with
    | .ok found => found.events
    | .error _ => []) ++
    (request.course registry).events

end Request
end SqlText
