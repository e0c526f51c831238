import SqlText.Value

/-!
# Keys

Things are kept under keys. A plain value can be a key unless it is a list or a record. A truth
value is the same key as the number one or zero, so a key does not tell how it was written; what
is kept under it can remember that.
-/

set_option autoImplicit false

namespace SqlText

/-- What things can be kept under. -/
inductive Key where
  | none
  | number (value : Int)
  | text (value : Text)
deriving DecidableEq, Repr

/-- The key that a plain value is, if it is one. -/
def Value.key? : Value → Option Key
  | .none => some .none
  | .bool value => some (.number (if value then 1 else 0))
  | .int value => some (.number value)
  | .text value => some (.text value)
  | .list _ | .record _ => Option.none

end SqlText
