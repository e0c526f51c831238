import SqlText.Render.Outline

/-!
# The text of a statement

A statement is rendered together with the statements inside it. The queries of its common table
expressions are laid out one level deeper, everything else in the statement's own layout. The text
of a statement, also of one inside another, ends before the blank characters that its last clause
ends with: `Statement.written` still has them, `Statement.render` is without them.

Set operations apart, the text is made of segments, one after another (`Statement.outline`,
`Statement.written_eq_combined`).

A content that is the same in every layout is written as it is shown. Whether it may be written at
all is not decided here.
-/

set_option autoImplicit false

namespace SqlText

mutual
/-- The clauses of a statement in a layout, with blank characters at their end. -/
def Statement.written (layout : Layout) : Statement → Text
  | .select frame body queries operations =>
      body.render layout frame (queryTexts layout.nested queries)
        (operationTexts layout operations)
  | .insert frame body queries source =>
      frame.render layout .insert
        (body.outline (queryTexts layout.nested queries) (sourceText layout source))
  | .update frame body queries =>
      frame.render layout .update (body.outline (queryTexts layout.nested queries))
  | .delete frame body queries =>
      frame.render layout .delete (body.outline (queryTexts layout.nested queries))
  | .values frame body => frame.render layout .values body.outline
  | .createTable frame body => frame.render layout .createTable (body.outline frame)
  | .dropTable frame body =>
      frame.render layout .dropTable (body.outline frame .dropTable "DROP TABLE".toList)
  | .dropIndex frame body =>
      frame.render layout .dropIndex (body.outline frame .dropIndex "DROP INDEX".toList)
  | .createIndex frame body => frame.render layout .createIndex body.outline
  | .alterTable frame body => frame.render layout .alterTable body.outline
  | .transaction frame body entries =>
      frame.render layout .transaction (body.outline layout frame (entryTexts layout entries))

/-- The text of what stands inside a statement. -/
def operandText (layout : Layout) : Operand Statement → Text
  | .statement statement => (statement.written layout).trimEnd
  | .command command => command.render layout
  | .fixed content => content.shown

/-- The texts of common table expressions. -/
def queryTexts (layout : Layout) : List (Text × Operand Statement) → List (Text × Text)
  | [] => []
  | (name, query) :: rest => (name, operandText layout query) :: queryTexts layout rest

/-- The texts of the operands of set operations. -/
def operationTexts (layout : Layout) :
    List (SetOperation × Operand Statement) → List (SetOperation × Text)
  | [] => []
  | (operation, operand) :: rest =>
      (operation, operandText layout operand) :: operationTexts layout rest

/-- The text of the source of an INSERT. -/
def sourceText (layout : Layout) : Option Statement → Text
  | none => []
  | some source => (source.written layout).trimEnd

/-- The texts of the entries of a transaction script. -/
def entryTexts (layout : Layout) : List (Operand Statement) → List Text
  | [] => []
  | entry :: rest => operandText layout entry :: entryTexts layout rest
end

namespace Statement

/-- The segments of a statement, its set operations apart. -/
def outline (layout : Layout) : Statement → List Segment
  | select _ body queries _ => body.outline (queryTexts layout.nested queries)
  | insert _ body queries source =>
      body.outline (queryTexts layout.nested queries) (sourceText layout source)
  | update _ body queries => body.outline (queryTexts layout.nested queries)
  | delete _ body queries => body.outline (queryTexts layout.nested queries)
  | values _ body => body.outline
  | createTable frame body => body.outline frame
  | dropTable frame body => body.outline frame .dropTable "DROP TABLE".toList
  | dropIndex frame body => body.outline frame .dropIndex "DROP INDEX".toList
  | createIndex _ body => body.outline
  | alterTable _ body => body.outline
  | transaction frame body entries => body.outline layout frame (entryTexts layout entries)

/-- The text that the clauses of a statement are combined to with its set operations. -/
def combined (layout : Layout) (statement : Statement) (clauses : Text) : Text :=
  match statement with
  | select frame _ _ operations =>
      if frame.dialect.supports .setOperations then
        frame.combination.render layout SetOperation.all clauses
          (operationTexts layout operations)
      else clauses
  | _ => clauses

/-- A statement is written as its segments, one after another, with its set operations. -/
theorem written_eq_combined (layout : Layout) (statement : Statement) :
    statement.written layout =
      statement.combined layout
        (statement.frame.render layout statement.kind (statement.outline layout)) := by
  cases statement <;> rw [written] <;> rfl

/-- The statement's text in a layout. -/
def render (layout : Layout) (statement : Statement) : Text := (statement.written layout).trimEnd

/-- The statement's text on one line. -/
def text (statement : Statement) : Text := statement.render .compact

/-- The statement with its kind and dialect, as a message shows it. -/
def quoted (statement : Statement) : Text :=
  statement.kind.name.toList ++ "(dialect=".toList ++ statement.dialect.name.quoted ++
    ", sql=".toList ++ statement.text.quoted ++ ")".toList

end Statement

/-- A statement inside another one has the text that it has alone. -/
@[simp]
theorem operandText_statement (layout : Layout) (statement : Statement) :
    operandText layout (.statement statement) = statement.render layout := by
  simp [operandText, Statement.render]

/-- The source of an INSERT has the text that it has alone. -/
@[simp]
theorem sourceText_some (layout : Layout) (source : Statement) :
    sourceText layout (some source) = source.render layout := by
  simp [sourceText, Statement.render]

/-- The texts of common table expressions are those of their queries, under their names. -/
theorem queryTexts_eq_map (layout : Layout) (queries : List (Text × Operand Statement)) :
    queryTexts layout queries = queries.map fun (name, query) =>
      (name, operandText layout query) := by
  induction queries with
  | nil => simp [queryTexts]
  | cons head rest previous => simp [queryTexts, previous]

/-- The texts of set operations are those of their operands. -/
theorem operationTexts_eq_map (layout : Layout)
    (operations : List (SetOperation × Operand Statement)) :
    operationTexts layout operations = operations.map fun (operation, operand) =>
      (operation, operandText layout operand) := by
  induction operations with
  | nil => simp [operationTexts]
  | cons head rest previous => simp [operationTexts, previous]

/-- The texts of a script's entries are those of the entries. -/
theorem entryTexts_eq_map (layout : Layout) (entries : List (Operand Statement)) :
    entryTexts layout entries = entries.map (operandText layout) := by
  induction entries with
  | nil => simp [entryTexts]
  | cons head rest previous => simp [entryTexts, previous]

end SqlText
