import SqlText.Failure
import SqlText.Value

/-!
# Logging levels

A level is a number, and some numbers have names. A logger passes on what is at least as severe
as its level. A logger without a level of its own has that of its parent, which passes on
warnings. Everything that is noted here has the severity of a debugging message.
-/

set_option autoImplicit false

namespace SqlText.Level

/-- The levels by the names that a configuration may give. -/
def named : List (String × Nat) :=
  [("CRITICAL", 50), ("FATAL", 50), ("ERROR", 40), ("WARN", 30), ("WARNING", 30), ("INFO", 20),
   ("DEBUG", 10), ("NOTSET", 0)]

/-- The name that a number is shown by as a level. -/
def name (level : Int) : Text :=
  if level = 50 then "CRITICAL".toList
  else if level = 40 then "ERROR".toList
  else if level = 30 then "WARNING".toList
  else if level = 20 then "INFO".toList
  else if level = 10 then "DEBUG".toList
  else if level = 0 then "NOTSET".toList
  else "Level ".toList ++ Value.decimal level

/-- How a plain value is shown as a level: a number by its name, the name of a level by its
number. -/
def shown (level : Value) : Except Failure Value :=
  match level with
  | .int number => .ok (.text (name number))
  | .bool false => .ok (.text (name 0))
  | .text word =>
      match named.find? fun entry => entry.1.toList = word with
      | some (_, number) => .ok (.int number)
      | none => .ok (.text ("Level ".toList ++ word))
  | .list _ | .record _ => .error .badArguments
  | level => .ok (.text ("Level ".toList ++ level.shown))

/-- The severity of what is noted. -/
def debug : Nat := 10

/-- The level of a parent that passes on warnings. -/
def parent : Nat := 30

/-- The level of the given name, in any case. -/
def ofName (name : Text) : Except Failure Nat :=
  match named.find? fun entry => entry.1.toList = name.upper with
  | some (_, level) => .ok level
  | none => .error (.unusable (.unknownLevel name.upper))

/-- The level that a plain value names. Only a text has a case to be looked past. -/
def ofValue : Value → Except Failure Nat
  | .text name => ofName name
  | value => .error (.noAttribute value.typeName "upper".toList)

/-- Whether a logger of the level passes on what is noted. -/
def passes (level : Nat) : Bool := decide ((if level = 0 then parent else level) ≤ debug)

end SqlText.Level
