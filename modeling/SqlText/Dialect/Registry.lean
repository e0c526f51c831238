import SqlText.Argument
import SqlText.Dialect.Engine
import SqlText.Failure

/-!
# Finding a dialect

The registry holds the dialects that can be found by name, and the aliases of their names. Names
are found in any case. A registration replaces what was registered under the name and the aliases
before, and leaves the rest alone; an alias is followed once.

A dialect can be asked for in several ways (`DialectSource`): by nothing, which is the generic
dialect whatever is registered, by itself, by a name, or by an engine. A name that is not
registered may still be the name of an engine, whose proper name is then looked up in turn. Such
a detour is noted.
-/

set_option autoImplicit false

namespace SqlText

/-- The registered dialects by lower-case name, and the aliases of the names. A later entry of
either stands before an earlier one. -/
structure Registry where
  dialects : List (Text × Dialect)
  aliases : List (Text × Text)

namespace Registry

/-- The registry with the built-in dialects. -/
def builtIn : Registry where
  dialects :=
    [.generic, .standard, .postgres, .sqlite, .mysql].map fun (dialect : Dialect) =>
      (dialect.name.shown, dialect)
  aliases :=
    [("", "generic"), ("ansi", "standard"), ("dialect", "generic"), ("postgresql", "postgres"),
     ("sql", "standard")].map fun (other, name) => (other.toList, name.toList)

/-- The registry with a dialect of the given features under its name and under the aliases. -/
def register (registry : Registry) (name : Text) (features : List Feature)
    (aliases : List Text) : Registry where
  dialects := (name.lower, ⟨.text name, features⟩) :: registry.dialects
  aliases := aliases.foldl (fun known other => (other.lower, name.lower) :: known) registry.aliases

/-- The key under which a name is looked up. -/
def key (name : Text) : Text := name.trim.lower

/-- The dialect that is registered for a key, directly or through an alias. -/
def find? (registry : Registry) (key : Text) : Option Dialect :=
  registry.dialects.lookup ((registry.aliases.lookup key).getD key)

/-- The dialect that goes by a name. -/
def named? (registry : Registry) (name : Text) : Option Dialect := registry.find? (key name)

end Registry

/-- The ways to ask for a dialect. What is not a dialect itself comes with how messages show
it. -/
inductive DialectSource where
  /-- No wish. -/
  | default
  /-- A dialect. -/
  | dialect (dialect : Dialect)
  /-- A name. -/
  | name (name shown : Text)
  /-- An engine by its name in lower case, which settings may follow. -/
  | engine (name shown : Text)
  /-- Another value, which may be one of the empty ones. -/
  | other (holds : Bool) (shown : Text)

/-- The text of a dialect, which its name has to be. -/
def Dialect.text (dialect : Dialect) : Except Failure Text :=
  match dialect.name with
  | .text name => .ok name
  | _ => .error .badArguments

/-- A dialect that was found, and the note of a detour. -/
structure Resolution where
  dialect : Dialect
  /-- How the source of a dialect that was found through an engine is shown. -/
  detour : Option Text

namespace DialectSource

/-- A plain value that asks for a dialect. -/
def ofValue : Value → DialectSource
  | .none => .default
  | .text text => .name text text.quoted
  | plain => .other plain.holds plain.quoted

/-- An argument that asks for a dialect. -/
def ofArgument : Argument → DialectSource
  | .value plain => .ofValue plain
  | .member entry => .name entry.value entry.quoted
  | argument => .other argument.holds argument.quoted

/-- What comes of asking for the source as an engine. -/
def lookup : DialectSource → Engine.Lookup
  | .default | .other false _ => .engine Engine.unspecific
  | .name [] _ => .engine Engine.unspecific
  | .name text _ | .engine text _ => Engine.find text
  | .dialect _ | .other true _ => .unknown

/-- How messages show the source. -/
def shown : DialectSource → Text
  | .default => "None".toList
  | .dialect found => found.name.quoted
  | .name _ text | .engine _ text | .other _ text => text

/-- The dialect of a source that is not in the registry itself. -/
def throughEngine (source : DialectSource) (registry : Registry) : Except Failure Resolution :=
  match source.lookup with
  | .unknown => .error (.unknownDialect source.shown)
  | .switch => .error (.noAttribute "bool" "upper".toList)
  | .engine proper =>
      match registry.named? proper with
      | none => .error (.unlistedDialect proper)
      | some found => .ok ⟨found, some source.shown⟩

/-- The dialect that a source asks for. -/
def resolve (source : DialectSource) (registry : Registry) : Except Failure Resolution :=
  match source with
  | .default => .ok ⟨.generic, none⟩
  | .dialect found => .ok ⟨found, none⟩
  | .name text _ =>
      match registry.named? text with
      | some found => .ok ⟨found, none⟩
      | none => source.throughEngine registry
  | source => source.throughEngine registry

end DialectSource
end SqlText
