import SqlText.Console
import SqlText.Statement.Create
import SqlText.Text.Pieces

/-!
# Objects

What the names of a session stand for: statements, factories, the texts that calls have returned
in place of a statement, and the three parts that such a text falls into. Every object can be
shown, and can stand among the arguments of a call.

A statement has the methods of its kind. The methods of the other objects are few (`Skill`): a
factory makes statements, a text can be parted, and all of them can be shown.
-/

set_option autoImplicit false

namespace SqlText

/-- What a name stands for. -/
inductive Object where
  | statement (statement : Statement)
  /-- A factory and the dialect of its statements. One whose dialect has been replaced from outside
  has none and makes no statements any more. -/
  | factory (dialect : Option Dialect)
  | text (text : Text)
  /-- The three parts of a text, as messages show them. -/
  | parts (shown : Text)

/-- What objects other than statements can do. -/
inductive Skill where
  /-- Make a statement. -/
  | make (kind : Kind)
  /-- Tell the dialect, which cannot be called. -/
  | dialect
  /-- Show itself. -/
  | display
  /-- Show itself as a message does. -/
  | quote
  /-- Fall into parts at a separator. -/
  | part
deriving DecidableEq, Repr

namespace Object

/-- The name of the object's type. -/
def typeName : Object → String
  | statement inner => inner.kind.name
  | factory _ => "SQLFactory"
  | text _ => "str"
  | parts _ => "tuple"

/-- The text that shows the object. -/
def display : Object → Text
  | statement inner => inner.text
  | factory _ => "<SQLFactory>".toList
  | text inner => inner
  | parts shown => shown

/-- The object as a message shows it. -/
def quoted : Object → Text
  | statement inner => inner.quoted
  | text inner => inner.quoted
  | object => object.display

/-- What happens while the object is shown in one of these ways. -/
def course : Object → Course
  | statement inner => inner.course .compact
  | _ => []

/-- The object among the arguments of a call. -/
def argument : Object → Argument
  | statement inner => .statement inner
  | text inner => .value (.text inner)
  | object => .other object.typeName object.display

/-! ## What objects can do -/

/-- What an object other than a statement can do under the given name. -/
def skill? (object : Object) (name : Text) : Option Skill :=
  if name = "__str__".toList then some .display
  else if name = "__repr__".toList then some .quote
  else
    match object with
    | factory _ =>
        if name = "dialect".toList then some .dialect
        else (Kind.ofFactoryMethod? name).map Skill.make
    | text _ => if name = "partition".toList then some .part else none
    | _ => none

/-- Whether the object has something under the given name. -/
def has (object : Object) (name : Text) : Bool :=
  match object with
  | statement inner => inner.has name
  | object => (object.skill? name).isSome

/-- The text that an argument gives for a separator, and how messages show it. -/
def separator? : Argument → Option (Text × Text)
  | .value (.text inner) => some (inner, inner.quoted)
  | .member entry => some (entry.value, entry.quoted)
  | _ => none

/-- The parts of a text: what is before the separator, the separator, and what is after it. Where
it does not occur all of the text is before it. -/
def partsOf (whole : Text) (argument : Argument) : Except Failure Object :=
  match separator? argument with
  | none => .error .badArguments
  | some (separator, shown) =>
      if separator.isEmpty then .error .emptySeparator
      else
        let (before, middle, after) :=
          match Text.parted? separator whole with
          | some (before, after) => (before, shown, after)
          | none => (whole, Text.quoted [], [])
        .ok
          (.parts
            ('(' :: Text.join ", ".toList [before.quoted, middle, after.quoted] ++ [')']))

/-- What an object other than a statement returns when it is asked to do something, and what is
noted on the way. It is `none` where the object returns itself. -/
def apply (object : Object) (registry : Registry) (skill : Skill) (arguments : List Argument) :
    Except Failure (Option Object) × List Event :=
  match skill, object, arguments with
  | .make kind, factory own, arguments =>
      match Request.ofFactory own kind arguments none with
      | .error failure => (.error failure, [])
      | .ok request =>
          (do pure (some (statement (← request.create registry))), request.events registry)
  | .display, text _, [] => (.ok none, [])
  | .display, object, [] => (.ok (some (text object.display)), [])
  | .quote, object, [] => (.ok (some (text object.quoted)), [])
  | .part, text whole, [separator] => (some <$> partsOf whole separator, [])
  | _, _, _ => (.error .badArguments, [])

end Object

/-- The new object that the call of a method returns in place of the statement after it, if it
returns one. -/
def Method.returned? (method : Method) (statement : Statement) : Option Object :=
  match method with
  | .toText | .render => some (.text statement.text)
  | .quote => some (.text statement.quoted)
  | .copy => some (.statement statement)
  | _ => none

end SqlText
