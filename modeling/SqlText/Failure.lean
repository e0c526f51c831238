import SqlText.Clause
import SqlText.Log.Fault
import SqlText.Text.Digit

/-!
# Why a request fails

Every way in which a request can fail is a constructor, with what the message needs to know.
`Failure.message` words it. A wrong number or type of arguments has no wording of its own.
-/

set_option autoImplicit false

namespace SqlText

/-- The reasons for which no use can be made of a value. -/
inductive ValueFault where
  /-- No logging level goes by the name. -/
  | unknownLevel (name : Text)
  /-- A number has more digits than may be written. -/
  | manyDigits
deriving DecidableEq, Repr

namespace ValueFault

/-- The message that a fault is reported with. -/
def message : ValueFault → Text
  | unknownLevel name => "Unknown level: ".toList ++ name.quoted
  | manyDigits =>
      "Exceeds the limit (".toList ++ Nat.toDigits 10 Text.mostDigits ++
        " digits) for integer string conversion; ".toList ++
        "use sys.set_int_max_str_digits() to increase the limit".toList

end ValueFault

/-- The reasons for which a request fails. -/
inductive Failure where
  /-- No statement or factory goes by the name. -/
  | unknownName (name : Text)
  /-- What is asked for is not there: no statement of the owner's kind has it, nor has a value of
  the owner's type. -/
  | noAttribute (owner : String) (name : Text)
  /-- The method depends on a feature that the dialect, shown by its name, lacks. -/
  | gatedMethod (kind : Kind) (method : Text) (dialect : Text)
  /-- The arguments do not fit in number or type. -/
  | badArguments
  /-- A statement builder was expected where another statement stores it. -/
  | notEmbeddable (host : Kind) (typeName : String)
  /-- The clause belongs to another enumeration. -/
  | foreignClause (kind : Kind) (path : Text)
  /-- No clause of the kind goes by the name. -/
  | unknownClause (kind : Kind) (quoted : Text)
  /-- The clause depends on a feature that the dialect, shown by its name, lacks. -/
  | missingFeature (feature : Feature) (dialect : Text)
  /-- The dialect, shown by its name, has no statement of the kind. -/
  | missingKind (kind : Kind) (dialect : Text)
  /-- Nothing is known of the dialect. -/
  | unknownDialect (quoted : Text)
  /-- The dialect is an engine's, but its features are not known. -/
  | unlistedDialect (engine : Text)
  /-- No feature goes by the name. -/
  | unknownFeature (quoted : Text)
  /-- No command goes by the keyword. -/
  | unknownCommand (quoted : Text)
  /-- No operator goes by the name. -/
  | unknownOperator (quoted : Text)
  /-- The value is of the right type, but no use can be made of it. -/
  | unusable (fault : ValueFault)
  /-- Nothing is kept under the key. -/
  | unknownKey (quoted : Text)
  /-- There are fewer items in a value of the named sort than one that is asked for. -/
  | outOfRange (sort : String)
  /-- A text cannot be parted at the empty text. -/
  | emptySeparator
  /-- A message template cannot be filled in. -/
  | template (fault : Template.Fault)
deriving DecidableEq, Repr

namespace Failure

/-- A level that goes by no name is reported as any other value that no use can be made of. -/
@[match_pattern]
abbrev unknownLevel (fault : ValueFault) : Failure := .unusable fault

/-- The message that a failure is reported with. -/
def message : Failure → Text
  | unknownName name => "no builder named ".toList ++ name
  | noAttribute owner name =>
      "'".toList ++ owner.toList ++ "' object has no attribute '".toList ++ name ++ "'".toList
  | gatedMethod kind method dialect =>
      Text.quoted kind.name.toList ++ " object has no attribute ".toList ++ method.quoted ++
        " for dialect ".toList ++ dialect
  | badArguments => []
  | notEmbeddable host typeName =>
      host.name.toList ++ " cannot embed ".toList ++ Text.quoted typeName.toList ++
        "; a statement builder is required.".toList
  | foreignClause kind path =>
      path ++ " is not a clause of ".toList ++ kind.name.toList ++ "; use ".toList ++
        kind.clauseFamily.toList ++ ".".toList
  | unknownClause kind quoted =>
      "Unknown ".toList ++ kind.clauseFamily.toList ++ " clause: ".toList ++ quoted
  | missingFeature feature dialect =>
      "Feature ".toList ++ Text.quoted feature.name.toList ++
        " is not available for dialect ".toList ++ dialect
  | missingKind kind dialect =>
      kind.name.toList ++ " statements are not available for dialect ".toList ++ dialect
  | unknownDialect quoted => "Unknown dialect ".toList ++ quoted
  | unlistedDialect engine =>
      "Dialect ".toList ++ engine.quoted ++
        " is known to sqlglot but has no capability table".toList
  | unknownFeature quoted => quoted ++ " is not a valid Feature".toList
  | unknownCommand quoted => quoted ++ " is not a valid TransactionCommandKind".toList
  | unknownOperator quoted => quoted ++ " is not a valid LogicalOperator".toList
  | unusable fault => fault.message
  | unknownKey quoted => quoted
  | outOfRange sort => sort.toList ++ " index out of range".toList
  | emptySeparator => "empty separator".toList
  | template fault => fault.message

end Failure
end SqlText
