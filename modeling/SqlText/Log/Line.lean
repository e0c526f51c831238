import SqlText.ErrorDetail
import SqlText.Key
import SqlText.Log.Event
import SqlText.Log.Level
import SqlText.Log.Logger
import SqlText.Log.Template
import SqlText.Text.Pieces

/-!
# Lines of a log

A log line is a record of a fixed order of fields: the time, the level, the logger and the
message, then the statement, the dialect and the length where they are given, and the text of an
error. It is written without blanks, with every text between double quotes. Inside a text the
double quote, the backslash and the control characters are escaped, and nothing else is.

The plain style has the level, the logger and the message alone. Nothing is escaped in it, so an
entry may take several lines.
-/

set_option autoImplicit false

namespace SqlText.Log

/-- One character inside double quotes. -/
def escapedChar (c : Char) : Text :=
  if c = '"' then ['\\', '"']
  else if c = '\\' then ['\\', '\\']
  else if c = '\n' then ['\\', 'n']
  else if c = '\r' then ['\\', 'r']
  else if c = '\t' then ['\\', 't']
  else if c = Char.ofNat 8 then ['\\', 'b']
  else if c = Char.ofNat 12 then ['\\', 'f']
  else if c.toNat < 0x20 then '\\' :: 'u' :: Text.hex 4 c.toNat
  else [c]

/-- A text between double quotes. -/
def stringText (text : Text) : Text := '"' :: text.flatMap escapedChar ++ ['"']

mutual
/-- A value as it stands in a line. -/
def valueText : Value → Text
  | .none => "null".toList
  | .bool true => "true".toList
  | .bool false => "false".toList
  | .int number => Value.decimal number
  | .text text => stringText text
  | .list items => '[' :: Text.join [','] (itemTexts items) ++ [']']
  | .record fields => '\x7b' :: Text.join [','] (fieldTexts fields) ++ ['\x7d']

/-- The items of a list as they stand in a line. -/
def itemTexts : List Value → List Text
  | [] => []
  | item :: rest => valueText item :: itemTexts rest

/-- The fields of a record as they stand in a line. -/
def fieldTexts : List (Text × Value) → List Text
  | [] => []
  | (name, value) :: rest => (stringText name ++ ':' :: valueText value) :: fieldTexts rest
end

/-- What a line tells. -/
structure Entry where
  timestamp : Text
  level : Value
  logger : Value
  message : Text
  /-- The statement, the dialect and the length, in this order, where they are given. -/
  extras : List (Text × Value) := []
  error : Option Text := none

/-- The fields that may be given beside the message. -/
def extraNames : List Text := ["statement", "dialect", "length"].map String.toList

/-- The given fields that a line shows, in their order. -/
def extrasOf (fields : List (Text × Value)) : List (Text × Value) :=
  extraNames.filterMap fun name =>
    match fields.lookup name with
    | none | some .none => none
    | some value => some (name, value)

namespace Entry

/-- The line with all its fields. -/
def structured (entry : Entry) : Text :=
  valueText
    (.record
      ([("timestamp".toList, .text entry.timestamp), ("level".toList, entry.level),
        ("logger".toList, entry.logger), ("message".toList, .text entry.message)] ++
        entry.extras ++
        match entry.error with
        | some error => [("exception".toList, .text error)]
        | none => []))

/-- The line in the plain style. -/
def plain (entry : Entry) : Text :=
  entry.level.shown ++ ' ' :: entry.logger.shown ++ ": ".toList ++ entry.message

/-- The entry of something noted by a logger, with the fields that belong to it. -/
def noted (timestamp logger message : Text) (fields : List (Text × Value)) : Entry :=
  { timestamp, level := .text (Level.name Level.debug), logger := .text logger, message
    extras := extrasOf fields }

/-- The entry of an event. -/
def ofEvent (timestamp : Text) : Event → Entry
  | .rendered record =>
      noted timestamp Logger.builder
        ("Rendered ".toList ++ record.kind.name.toList ++ " statement".toList)
        [("statement".toList, .text record.kind.name.toList),
         ("dialect".toList, record.dialect), ("length".toList, .int record.length)]
  | .resolved shown dialect =>
      noted timestamp Logger.dialects
        ("Resolved dialect ".toList ++ shown ++ " to ".toList ++ dialect.shown)
        [("dialect".toList, dialect)]
  | .factory dialect =>
      noted timestamp Logger.factory ("SQL factory created for dialect ".toList ++ dialect.shown)
        [("dialect".toList, dialect)]

/-- The lines of the message alone. -/
def messageLines (entry : Entry) : List Text := entry.message.pieces '\n'

end Entry

/-- How a log is set up: the level and the style of its lines. -/
structure Settings where
  level : Nat
  isStructured : Bool

/-- The settings of the given level and style. -/
def Settings.ofValues (level style : Value) : Except Failure Settings := do
  pure ⟨← Level.ofValue level, decide (style.key? = some (.text "structured".toList))⟩

/-- The entries of the events that a log with the settings passes on. -/
def Settings.entries (settings : Settings) (timestamp : Text) (events : List Event) :
    List Entry :=
  if Level.passes settings.level then events.map (Entry.ofEvent timestamp) else []

/-- The lines of an entry in the style of the settings. -/
def Settings.lines (settings : Settings) (entry : Entry) : List Text :=
  (if settings.isStructured then entry.structured else entry.plain).pieces '\n'

/-! ## Messages of their own -/

/-- What is told of a message of its own: its logger, its level, a template with its arguments, an
error, and fields. A field under the name of one of the parts but the error replaces the part, and
one under the name of what puts the message together leaves nothing that could do so. -/
structure Note where
  logger : Value
  level : Value
  template : Value
  arguments : Template.Arguments
  error : Option ErrorDetail := none
  fields : List (Text × Value) := []

namespace Note

/-- The field of the given name. -/
def field? (note : Note) (name : String) : Option Value := note.fields.lookup name.toList

/-- The arguments of the template. -/
def finalArguments (note : Note) : Template.Arguments :=
  match note.field? "args" with
  | some value => .alone value
  | none => note.arguments

/-- The text of an error that is given as a list of its type, itself and its trace. Such a list can
be read only where it says that there is no error. -/
def partsText : Value → Except Failure Text
  | .list (_ :: .none :: .none :: _) => .ok "NoneType: None".toList
  | .list (_ :: error :: .none :: _) =>
      .error (.noAttribute error.typeName "__suppress_context__".toList)
  | .list (_ :: _ :: trace :: _) => .error (.noAttribute trace.typeName "tb_frame".toList)
  | .list _ => .error (.outOfRange "list")
  | .text (_ :: _ :: _ :: _) => .error (.noAttribute "str" "tb_frame".toList)
  | .text _ => .error (.outOfRange "string")
  | .record _ => .error (.unknownKey (Value.int 2).quoted)
  | _ => .error .badArguments

/-- The text of the error as a line shows it. A field stands in for an error that is not given,
unless it is one of the empty values. -/
def errorText (note : Note) : Except Failure (Option Text) :=
  match note.error with
  | some error => do
      let text ← error.text
      let name := "sqlstitch.exceptions.".toList ++ error.family.name.toList
      pure (some (if text = [] then name else name ++ ": ".toList ++ text))
  | none =>
      match note.field? "exc_info" with
      | some value => if value.holds then some <$> partsText value else .ok none
      | none => .ok none

/-- The entry of a note. -/
def entry (note : Note) (timestamp : Text) : Except Failure Entry := do
  let level ← Level.shown note.level
  if (note.field? "getMessage").isSome then .error .badArguments
  let template := (note.field? "msg").getD note.template
  let codes ← Template.fill template.shown note.finalArguments
  let error ← note.errorText
  let message ← Template.charactersOf codes
  pure
    { timestamp, level := (note.field? "levelname").getD level
      logger := (note.field? "name").getD note.logger
      message, extras := extrasOf note.fields, error }

end Note
end SqlText.Log
