import SqlText.Argument
import SqlText.Collection
import SqlText.Render.Course

/-!
# Putting texts together outside a statement

The renderers of single clauses can be used on their own, on any plain values. A value that stands
for a keyword, a name or a single value is shown as a text. The items of a list have to be texts,
apart from the empty values where those are left out, and what stands in place of a statement has
to be one, or a command or a fixed content. Of the layout only those parts have to be texts that
something is put together with, and they are looked at before what is put together.

Set operations are keyed by any plain values but lists and records. They are taken one after
another, and each is looked at only when those before it have been written: first the text so far
has to be one, then the raw text before the operation, its operand, its keyword if there are two
sides to be joined by it, and the raw text after it. Without operations and keywords there is
nothing to write, and what was given is left as it is, whether it is a text or not.
-/

set_option autoImplicit false

namespace SqlText

/-- Raw fragments by key, before and after what stands under the key. -/
structure Surroundings where
  before : List (Key × Value)
  after : List (Key × Value)

/-- What can be put together. -/
inductive Assembly where
  /-- Raw fragments after a text. -/
  | raw (query fragments : Value)
  /-- The fragment of a clause after a text, with the raw fragments of the clause around it. -/
  | wrapped (query clause fragment : Value) (raw : Surroundings)
  /-- A keyword alone. -/
  | keyword (keyword : Value)
  /-- A keyword with a value, unless that is empty. -/
  | single (keyword value : Value)
  /-- A keyword with a list of items. -/
  | list (keyword items : Value)
  /-- Items on lines of their own. -/
  | lines (items : Value)
  /-- A keyword with conditions, each after its operator. -/
  | conditions (keyword : Value) (conditions : List (Value × Value))
  /-- A statement inside another one. -/
  | embedded (statement : Argument)
  /-- Common table expressions. -/
  | queries (entries : List (Value × Argument))
  /-- Set operations on a text, with keywords and raw fragments by key. -/
  | combined (query : Value) (operations : List (Value × Argument))
      (keywords : List (Value × Value)) (raw : Surroundings)

/-- A value in parentheses. A text that holds an opening parenthesis is left as it is, and so is a
list with one among its items or a record with one among its names. -/
def Value.parenthesized (value : Value) : Except Failure Value :=
  match value with
  | .text given => .ok (.text given.parenthesized)
  | .list items =>
      if items.any fun item => item.key? = some (.text ['(']) then .ok value
      else .ok (.text ('(' :: value.quoted ++ [')']))
  | .record fields =>
      if fields.any fun field => field.1 = ['('] then .ok value
      else .ok (.text ('(' :: value.quoted ++ [')']))
  | _ => .error .badArguments

namespace Assembly

/-! ## Reading values -/

/-- What a value consists of: a list of its items, a text of its characters, a record of its
names. Other values do not consist of anything. -/
def itemsOf : Value → Except Failure (List Value)
  | .list items => .ok items
  | .text characters => .ok (characters.map fun character => .text [character])
  | .record fields => .ok (fields.map fun field => .text field.1)
  | _ => .error .badArguments

/-- The texts that the values have to be. -/
def textsOf (values : List Value) : Except Failure (List Text) :=
  match Value.texts? values with
  | some texts => .ok texts
  | none => .error .badArguments

/-- The texts that the items of a value have to be. -/
def allTextsOf (value : Value) : Except Failure (List Text) := do textsOf (← itemsOf value)

/-- The texts that those of the items of a value have to be that are not empty. -/
def fullTextsOf (value : Value) : Except Failure (List Text) := do
  textsOf ((← itemsOf value).filter Value.holds)

/-- The key that a value has to be. -/
def keyOf (value : Value) : Except Failure Key :=
  match value.key? with
  | some key => .ok key
  | none => .error .badArguments

/-- The text of the operand that an argument has to be. -/
def operandOf (given : LayoutParts) (argument : Argument) : Except Failure Text :=
  match argument.operand? with
  | some operand => (operandCourse given operand).result (operandText given.shown operand)
  | none => .error (.noAttribute argument.typeName "render".toList)

/-- The texts of the named operands that the entries have to be. -/
def operandsOf (given : LayoutParts) :
    List (Value × Argument) → Except Failure (List (Text × Text))
  | [] => .ok []
  | (name, argument) :: rest => do
      let text ← operandOf given argument
      pure ((name.shown, text) :: (← operandsOf given rest))

/-- The conditions that operators and texts make. -/
def conditionsOf : List (Value × Value) → Except Failure (List Condition)
  | [] => .ok []
  | (name, text) :: rest => do
      let operator ← Operator.ofValue name
      pure ((operator, text.shown) :: (← conditionsOf rest))

/-! ## Set operations -/

/-- The values by key. Of several values for a key the last one counts, at the place of the
first. -/
def keyed {α : Type} : List (Value × α) → Except Failure (List (Key × α))
  | [] => .ok []
  | (name, value) :: rest => do
      let key ← keyOf name
      let others ← keyed rest
      pure ((key, (others.lookup key).getD value) :: others.filter fun other => other.1 ≠ key)

/-- A set operation that is still to be looked at: its key, how it was written, and its operand. -/
structure Operation where
  key : Key
  name : Value
  operand : Argument

/-- The operations of the given names on the given operands. -/
def operationsOf : List (Value × Argument) → Except Failure (List Operation)
  | [] => .ok []
  | (name, operand) :: rest => do
      let key ← keyOf name
      pure (⟨key, name, operand⟩ :: (← operationsOf rest))

/-- The text that the left side of an operation has to be. -/
def leftOf (value : Value) : Except Failure Text :=
  match value with
  | .text text => .ok text
  | value => .error (.noAttribute value.typeName "strip".toList)

/-- The raw texts that stand before an operation, the first of its key. -/
def beforeOf (given : LayoutParts) (raw : Surroundings) (key : Key) :
    Except Failure (List Text) := do
  let _ ← given.spacer
  allTextsOf ((raw.before.lookup key).getD (.list []))

/-- The raw texts that a value consists of, the empty ones left out. -/
def rawTexts (given : LayoutParts) (fragments : Value) : Except Failure (List Text) := do
  let _ ← given.terminator
  fullTextsOf fragments

/-- The raw texts of a key that stand after its last operation, or around its place if there is
none. -/
def rawOf (given : LayoutParts) (fragments : List (Key × Value)) (key : Key) :
    Except Failure (List Text) :=
  rawTexts given ((fragments.lookup key).getD (.list []))

/-- The keyword of an operation, which has to be there if its two sides are to be joined. -/
def keywordOf (keywords : List (Key × Value)) (operation : Operation) (isJoined : Bool) :
    Except Failure Text :=
  match keywords.lookup operation.key with
  | some word => .ok word.shown
  | none => if isJoined then .error (.unknownKey operation.name.quoted) else .ok []

/-- What one operation makes of the value before it. It is preceded by operations of the keys in
`seen`, and followed by those of the keys in `later`. -/
def operate (given : LayoutParts) (keywords : List (Key × Value)) (raw : Surroundings)
    (seen later : List Key) (value : Value) (operation : Operation) : Except Failure Text := do
  let text ← leftOf value
  let before ← if operation.key ∈ seen then pure [] else beforeOf given raw operation.key
  let right ← operandOf given operation.operand
  let bare : Combination Key := ⟨fun _ => [], fun _ => before, fun _ => []⟩
  let left := bare.leftSide given.shown seen text operation.key
  let word ← keywordOf keywords operation (!left.isEmpty && !right.trim.isEmpty)
  let after ← if operation.key ∈ later then pure [] else rawOf given raw.after operation.key
  let combination : Combination Key := ⟨fun _ => word, fun _ => before, fun _ => after⟩
  pure (combination.step given.shown seen later text operation.key right)

/-- What the operations make of a value, of which those of the keys in `seen` went before. -/
def operateAll (given : LayoutParts) (keywords : List (Key × Value)) (raw : Surroundings)
    (seen : List Key) (value : Value) : List Operation → Except Failure Value
  | [] => .ok value
  | operation :: rest => do
      let text ← operate given keywords raw seen (rest.map Operation.key) value operation
      operateAll given keywords raw (operation.key :: seen) (.text text) rest

/-- A value with the raw text of the keys that have no operation after it. -/
def closeAll (given : LayoutParts) (raw : Surroundings) (value : Value) :
    List Key → Except Failure Value
  | [] => .ok value
  | key :: rest => do
      let before ← rawOf given raw.before key
      let after ← rawOf given raw.after key
      closeAll given raw (.text (value.shown ++ given.shown.wrapped before [] after)) rest

/-- The set operations on a value in a layout. -/
def combine (given : LayoutParts) (query : Value) (operations : List (Value × Argument))
    (keywords : List (Value × Value)) (raw : Surroundings) : Except Failure Value := do
  let keywords ← keyed keywords
  let operations ← operationsOf operations
  let value ← operateAll given keywords raw [] query operations
  let used := operations.map Operation.key
  closeAll given raw value ((keywords.map Prod.fst).filter fun key => key ∉ used)

/-! ## Rendering -/

/-- The text of an assembly in a layout of the given parts, or what is left as it is. -/
def render (given : LayoutParts) : Assembly → Except Failure Value
  | raw query fragments => do
      pure (.text (query.shown ++ given.shown.rawText (← rawTexts given fragments)))
  | wrapped query clause fragment around => do
      let key ← keyOf clause
      let before ← rawOf given around.before key
      let after ← rawOf given around.after key
      pure (.text (query.shown ++ given.shown.wrapped before fragment.shown after))
  | keyword word => .ok (.text ((Part.words [word.shown]).render given.shown))
  | single word value =>
      .ok
        (.text
          ((Part.single word.shown (if value.holds then value.shown else [])).render given.shown))
  | list word items => do
      let items := (← itemsOf items).filter Value.holds
      if items.isEmpty then return .text []
      let _ ← given.separator
      pure (.text ((Part.list word.shown (← textsOf items)).render given.shown))
  | lines items =>
      if items.holds then do
        let _ ← given.terminator
        pure (.text ((Part.lines (← allTextsOf items)).render given.shown))
      else .ok (.text [])
  | conditions word entries => do
      pure (.text ((Part.conditions word.shown (← conditionsOf entries)).render given.shown))
  | embedded (.value .none) => .ok (.text [])
  | embedded argument => do
      pure (.text ((Part.embedded (← operandOf given argument)).render given.shown))
  | queries entries => do
      let nested ← given.nested
      let texts ← operandsOf nested entries
      if texts.all fun entry => entry.2.trim = [] then return .text []
      let _ ← given.separator
      pure (.text (Part.renderQueries given.shown nested.shown texts))
  | combined query operations keywords around =>
      combine given query operations keywords around

end Assembly
end SqlText
