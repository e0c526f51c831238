import SqlText.Log.Format

/-!
# Message templates

A template is a text with conversions, each a percent sign, flags, a width, a precision and the
letter of a conversion. Every conversion takes the next value, and a star in place of a width or a
precision takes one too; a doubled percent sign takes none. There have to be as many values as
the conversions take.

A value that is given alone may also be read by the names of its fields, in parentheses after the
percent sign, if it is a record; it need not be used up then.
-/

set_option autoImplicit false

namespace SqlText.Template

/-! ## Values -/

/-- What a template is filled in with. -/
inductive Arguments where
  /-- Any number of values, all of which have to be used. -/
  | several (values : List Value)
  /-- A value alone. -/
  | alone (value : Value)

namespace Arguments

/-- The arguments that a list of values amounts to: a single record that is not empty is given
alone. -/
def ofList : List Value → Arguments
  | [.record (first :: rest)] => .alone (.record (first :: rest))
  | values => .several values

/-- Whether there is anything to fill in. -/
def hold : Arguments → Bool
  | several values => !values.isEmpty
  | alone value => value.holds

end Arguments

/-- The values that conversions take one after another. -/
structure Supply where
  values : List Value
  /-- The value whose fields can be read by name. -/
  named : Option Value := none

namespace Supply

/-- The supply at the start of a template. -/
def ofArguments : Arguments → Supply
  | .several values => { values }
  | .alone (.record fields) => { values := [.record fields], named := some (.record fields) }
  | .alone (.list items) => { values := [.list items], named := some (.list items) }
  | .alone value => { values := [value] }

/-- The value for a conversion and what is left. -/
def next (supply : Supply) : Except Failure (Value × Supply) :=
  match supply.values with
  | [] => .error .badArguments
  | value :: rest => .ok (value, { supply with values := rest })

/-- The supply of the field of the given name alone. -/
def field (supply : Supply) (name : Text) : Except Failure Supply :=
  match supply.named with
  | some (.record fields) =>
      match fields.lookup name with
      | some value => .ok { supply with values := [value] }
      | none => .error (.unknownKey name.quoted)
  | _ => .error .badArguments

/-- Whether nothing is left that has to be used. -/
def isDone (supply : Supply) : Bool := supply.values.isEmpty || supply.named.isSome

end Supply

/-! ## The parts of a conversion -/

/-- The flags at the start of a conversion, and what follows them. -/
def flags (format : Format) : Text → Format × Text
  | '-' :: rest => flags { format with leftAligned := true } rest
  | '+' :: rest => flags { format with signed := true } rest
  | ' ' :: rest => flags { format with spaced := true } rest
  | '#' :: rest => flags { format with alternate := true } rest
  | '0' :: rest => flags { format with zeroPadded := true } rest
  | rest => (format, rest)

/-- The number at the start of a text, and what follows it. -/
def leadingNumber (text : Text) : Nat × Text :=
  let digits := text.takeWhile Char.isDigit
  (digits.foldl (fun number digit => 10 * number + (digit.toNat - '0'.toNat)) 0,
   text.dropWhile Char.isDigit)

/-- What a number within a conversion may be: it lies below `limit` in size, with a fault for one
that is written out and a fault for one among the values. -/
structure Measure where
  limit : Nat
  written : Fault
  given : Fault

/-- A width. -/
def Measure.width : Measure := ⟨Nat.pow 2 63, .wideWidth, .hugeWidth⟩

/-- A precision. -/
def Measure.precision : Measure := ⟨Nat.pow 2 31, .widePrecision, .hugePrecision⟩

/-- The number at the start of a text, written out or taken from the values, and what follows
it. -/
def Measure.read (measure : Measure) (supply : Supply) (text : Text) :
    Except Failure (Int × Text × Supply) :=
  match text with
  | '*' :: rest => do
      let (value, supply) ← supply.next
      let number ← numberOf value
      if -(measure.limit : Int) ≤ number ∧ number < measure.limit then
        pure (number, rest, supply)
      else .error (.template measure.given)
  | text =>
      let (number, rest) := leadingNumber text
      if number < measure.limit then .ok ((number : Int), rest, supply)
      else .error (.template measure.written)

/-- The name in parentheses at the start of a conversion, nested parentheses included, and what
follows it. -/
def fieldName (depth : Nat) (name : Text) : Text → Option (Text × Text)
  | [] => none
  | '(' :: rest => fieldName (depth + 1) ('(' :: name) rest
  | ')' :: rest =>
      match depth with
      | 0 => some (name.reverse, rest)
      | depth + 1 => fieldName depth (')' :: name) rest
  | c :: rest => fieldName depth (c :: name) rest

/-- The supply of a conversion: that of a field, if one is named, and what follows the name. -/
def conversionSupply (supply : Supply) (text : Text) : Except Failure (Supply × Text) :=
  match text with
  | '(' :: rest =>
      if supply.named.isNone then .error .badArguments
      else
        match fieldName 0 [] rest with
        | none => .error (.template .incompleteName)
        | some (name, rest) => do pure (← supply.field name, rest)
  | text => .ok (supply, text)

/-- The letter before the letter of a conversion, which says nothing, is left out. -/
def withoutSize (text : Text) : Text :=
  match text with
  | 'h' :: rest | 'l' :: rest | 'L' :: rest => rest
  | text => text

/-- What a conversion writes, what follows it, and the values left. The text starts after the
percent sign, and the length is that of the whole template, which positions are counted in. -/
def conversion (length : Nat) (supply : Supply) (text : Text) :
    Except Failure (List Nat × Text × Supply) := do
  let (supply, text) ← conversionSupply supply text
  let (format, text) := flags {} text
  let (width, text, supply) ← Measure.width.read supply text
  let format := format.withWidth width
  let (format, text, supply) ←
    match text with
    | '.' :: rest => do
        let (precision, rest, supply) ← Measure.precision.read supply rest
        pure ({ format with precision := some precision.toNat }, rest, supply)
    | text => pure (format, text, supply)
  match withoutSize text with
  | [] => .error (.template .incomplete)
  | letter :: rest => do
      let (value, supply) ← supply.next
      let position := length - rest.length - 1
      if longest < format.width then do
        let _ ← convert { format with width := 0 } letter position value
        .error (.template .tooLong)
      else pure (← convert format letter position value, rest, supply)

/-! ## Filling in -/

/-- What a template writes, with its conversions filled in. The first number is the length of the
whole template, and the second bounds the steps. -/
def fillFrom (length : Nat) : Nat → Supply → Text → Except Failure (List Nat)
  | _, supply, [] => if supply.isDone then .ok [] else .error .badArguments
  | 0, _, _ => .ok []
  | bound + 1, supply, '%' :: '%' :: rest => do
      pure ('%'.toNat :: (← fillFrom length bound supply rest))
  | bound + 1, supply, '%' :: rest => do
      let (written, rest, supply) ← conversion length supply rest
      pure (written ++ (← fillFrom length bound supply rest))
  | bound + 1, supply, c :: rest => do
      pure (c.toNat :: (← fillFrom length bound supply rest))

/-- The code points of the message that a template and its arguments make. Without arguments the
template is the message. -/
def fill (template : Text) (arguments : Arguments) : Except Failure (List Nat) :=
  if arguments.hold then
    fillFrom template.length template.length (.ofArguments arguments) template
  else .ok (codesOf template)

end SqlText.Template
