import SqlText.Failure
import SqlText.Value

/-!
# Names of loggers

All loggers are children of one logger, and their names start with its name and a dot.
-/

set_option autoImplicit false

namespace SqlText.Logger

/-- The name of the parent of all loggers. -/
def root : Text := "sqlstitch".toList

/-- The name of the logger that a name stands for: the name itself if it is already the name of a
logger, else the name of a child. -/
def name (wanted : Text) : Text :=
  if wanted = [] ∨ wanted = root then root
  else if (root ++ ['.']).isPrefixOf wanted then wanted
  else root ++ '.' :: wanted

/-- The name of the logger that a plain value stands for. The empty values stand for the parent,
and of the others only a text can be compared with its name. -/
def ofValue (wanted : Value) : Except Failure Text :=
  if wanted.holds then
    match wanted with
    | .text text => .ok (name text)
    | wanted => .error (.noAttribute wanted.typeName "startswith".toList)
  else .ok root

/-- The logger of rendered statements. -/
def builder : Text := name "builder".toList

/-- The logger of dialects. -/
def dialects : Text := name "dialects".toList

/-- The logger of factories. -/
def factory : Text := name "factory".toList

end SqlText.Logger
