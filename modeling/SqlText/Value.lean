import SqlText.Text.Digit
import SqlText.Text.Quoted

/-!
# Plain values given for a text

Where a fragment is expected a caller may give any plain value: nothing, a truth value, a number,
a text, a list or a record. `Value.fragment` is the text it stands for, and `Value.quoted` is how a
message shows it, which differs for texts and for nothing alone. `Value.holds` tells the empty
values, which a constructor takes as no argument, from the others.

A number with more digits than may be written has no text, and neither has a list or a record with
such a number in it (`Value.isWritable`). Whoever asks for the text of such a value fails.
-/

set_option autoImplicit false

namespace SqlText

/-- A plain value. -/
inductive Value where
  | none
  | bool (value : Bool)
  | int (value : Int)
  | text (value : Text)
  | list (items : List Value)
  | record (fields : List (Text × Value))
deriving Inhabited

namespace Value

/-- A whole number in decimal digits. -/
def decimal : Int → Text
  | .ofNat n => Nat.toDigits 10 n
  | .negSucc n => '-' :: Nat.toDigits 10 (n + 1)

mutual
/-- The value as a message shows it. -/
def quoted : Value → Text
  | .none => "None".toList
  | .bool true => "True".toList
  | .bool false => "False".toList
  | .int value => decimal value
  | .text value => value.quoted
  | .list items => '[' :: Text.join ", ".toList (quotedItems items) ++ [']']
  | .record fields => '\x7b' :: Text.join ", ".toList (quotedFields fields) ++ ['\x7d']

/-- The items of a list as a message shows them. -/
def quotedItems : List Value → List Text
  | [] => []
  | item :: rest => item.quoted :: quotedItems rest

/-- The fields of a record as a message shows them. -/
def quotedFields : List (Text × Value) → List Text
  | [] => []
  | (name, value) :: rest => (name.quoted ++ ": ".toList ++ value.quoted) :: quotedFields rest
end

/-- The text that the value stands for as a word of a sentence. -/
def shown : Value → Text
  | .text value => value
  | value => value.quoted

/-- The text that the value stands for as a fragment: nothing is the empty text. -/
def fragment : Value → Text
  | .none => []
  | value => value.shown

mutual
/-- Whether the value has a text: no number in it has more digits than may be written. -/
def isWritable : Value → Bool
  | .int value => decide ((Nat.toDigits 10 value.natAbs).length ≤ Text.mostDigits)
  | .list items => areWritable items
  | .record fields => fieldsAreWritable fields
  | .none | .bool _ | .text _ => true

/-- Whether the items of a list have texts. -/
def areWritable : List Value → Bool
  | [] => true
  | item :: rest => item.isWritable && areWritable rest

/-- Whether the fields of a record have texts. -/
def fieldsAreWritable : List (Text × Value) → Bool
  | [] => true
  | (_, value) :: rest => value.isWritable && fieldsAreWritable rest
end

/-- Whether the value is one of the values that count as an argument. -/
def holds : Value → Bool
  | .none => false
  | .bool value => value
  | .int value => value ≠ 0
  | .text value => !value.isEmpty
  | .list items => !items.isEmpty
  | .record fields => !fields.isEmpty

/-- The number that the value is, if it is one. A truth value is one or zero. -/
def number? : Value → Option Int
  | .int number => some number
  | .bool flag => some (if flag then 1 else 0)
  | _ => Option.none

/-- The text that the value is, if it is one. -/
def text? : Value → Option Text
  | .text inner => some inner
  | _ => Option.none

/-- Whether the value is a text. -/
def isText (value : Value) : Bool := value.text?.isSome

/-- The texts that the values are, if they all are texts. -/
def texts? : List Value → Option (List Text)
  | [] => some []
  | .text first :: rest => (texts? rest).map (first :: ·)
  | _ :: _ => Option.none

/-- The name of the value's type. -/
def typeName : Value → String
  | .none => "NoneType"
  | .bool _ => "bool"
  | .int _ => "int"
  | .text _ => "str"
  | .list _ => "list"
  | .record _ => "dict"

end Value
end SqlText
