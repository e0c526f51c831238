import SqlText.Proofs.Calls
import SqlText.Proofs.Collecting
import SqlText.Proofs.Embedding

/-!
# What a statement always holds

A statement is valid when its lists are collected without repetition, its single values are
fragments or empty, its raw text stands under its own clauses, and the names of its common table
expressions and the arguments of its commands are trimmed. This is said of the statement alone;
that it is so of everything inside it too is `Statement.Everywhere Statement.IsValid`.

A new statement is valid, and an edit keeps it valid; that every call does is shown later
(`Statement.isInvariant_isValid`). The names of the bodies' fields are those of the conditions on
them, so that an edit of one field touches one condition.
-/

set_option autoImplicit false

namespace SqlText

/-! ## Bodies -/

structure SelectBody.IsValid (body : SelectBody) : Prop where
  columns : CollectedTexts body.columns
  tables : CollectedTexts body.tables
  joins : CollectedTexts body.joins
  conditions : CollectedConditions body.conditions
  groups : CollectedTexts body.groups
  groupConditions : CollectedConditions body.groupConditions
  windows : CollectedTexts body.windows
  order : CollectedTexts body.order
  limit : IsValue body.limit
  offset : IsValue body.offset

theorem SelectBody.IsValid.edit {body : SelectBody} (valid : body.IsValid) (method : Method)
    (texts : List Text) : (body.edit method texts).IsValid := by
  unfold SelectBody.edit
  split
  · exact { valid with columns := valid.columns.pushAll texts }
  · exact { valid with tables := valid.tables.pushAll texts }
  · exact { valid with joins := valid.joins.pushJoins _ texts }
  · exact { valid with joins := valid.joins.pushJoins _ texts }
  · exact { valid with joins := valid.joins.pushJoins _ texts }
  · exact { valid with joins := valid.joins.pushJoins _ texts }
  · exact { valid with conditions := valid.conditions.pushConditions .and texts }
  · exact { valid with conditions := valid.conditions.pushConditions .or texts }
  · exact { valid with groups := valid.groups.pushAll texts }
  · exact { valid with groupConditions := valid.groupConditions.pushConditions .and texts }
  · exact { valid with groupConditions := valid.groupConditions.pushConditions .or texts }
  · exact { valid with windows := valid.windows.pushAll texts }
  · exact { valid with order := valid.order.pushAll texts }
  · exact { valid with limit := isValue_newValue texts }
  · exact { valid with offset := isValue_newValue texts }
  · exact valid

structure InsertBody.IsValid (body : InsertBody) : Prop where
  target : ∀ target ∈ body.target, target.2.IsFragment
  overriding : IsValue body.overriding
  rows : CollectedTexts body.rows
  onConflict : IsValue body.onConflict
  output : CollectedTexts body.output

theorem InsertBody.IsValid.edit {body : InsertBody} (valid : body.IsValid) (method : Method)
    (texts : List Text) : (body.edit method texts).IsValid := by
  unfold InsertBody.edit
  split
  · exact { valid with target := newTarget_isFragment _ texts }
  · exact { valid with target := newTarget_isFragment _ texts }
  · exact { valid with target := newTarget_isFragment _ texts }
  · exact { valid with overriding := isValue_newValue texts }
  · exact { valid with rows := valid.rows.pushAll texts }
  · exact { valid with rows := valid.rows.pushRows texts }
  · exact { valid with }
  · exact { valid with onConflict := isValue_newValue texts }
  · exact { valid with output := valid.output.pushAll texts }
  · exact valid

structure UpdateBody.IsValid (body : UpdateBody) : Prop where
  target : ∀ target ∈ body.target, target.2.IsFragment
  assignments : CollectedTexts body.assignments
  tables : CollectedTexts body.tables
  joins : CollectedTexts body.joins
  conditions : CollectedConditions body.conditions
  output : CollectedTexts body.output

theorem UpdateBody.IsValid.edit {body : UpdateBody} (valid : body.IsValid) (method : Method)
    (texts : List Text) : (body.edit method texts).IsValid := by
  unfold UpdateBody.edit
  split
  · exact { valid with target := newTarget_isFragment _ texts }
  · exact { valid with target := newTarget_isFragment _ texts }
  · exact { valid with assignments := valid.assignments.pushAll texts }
  · exact { valid with tables := valid.tables.pushAll texts }
  · exact { valid with joins := valid.joins.pushJoins _ texts }
  · exact { valid with joins := valid.joins.pushJoins _ texts }
  · exact { valid with joins := valid.joins.pushJoins _ texts }
  · exact { valid with joins := valid.joins.pushJoins _ texts }
  · exact { valid with conditions := valid.conditions.pushConditions .and texts }
  · exact { valid with conditions := valid.conditions.pushConditions .or texts }
  · exact { valid with output := valid.output.pushAll texts }
  · exact valid

structure DeleteBody.IsValid (body : DeleteBody) : Prop where
  table : IsValue body.table
  partitions : CollectedTexts body.partitions
  conditions : CollectedConditions body.conditions
  order : CollectedTexts body.order
  limit : IsValue body.limit
  output : CollectedTexts body.output

theorem DeleteBody.IsValid.edit {body : DeleteBody} (valid : body.IsValid) (method : Method)
    (texts : List Text) : (body.edit method texts).IsValid := by
  unfold DeleteBody.edit
  split
  · exact { valid with table := isValue_newValue texts }
  · exact { valid with partitions := valid.partitions.pushAll texts }
  · exact { valid with conditions := valid.conditions.pushConditions .and texts }
  · exact { valid with conditions := valid.conditions.pushConditions .or texts }
  · exact { valid with order := valid.order.pushAll texts }
  · exact { valid with limit := isValue_newValue texts }
  · exact { valid with output := valid.output.pushAll texts }
  · exact valid

structure ValuesBody.IsValid (body : ValuesBody) : Prop where
  rows : CollectedTexts body.rows

theorem ValuesBody.IsValid.edit {body : ValuesBody} (valid : body.IsValid) (method : Method)
    (texts : List Text) : (body.edit method texts).IsValid := by
  unfold ValuesBody.edit
  split
  · exact { valid with rows := valid.rows.pushAll texts }
  · exact { valid with rows := valid.rows.pushRows texts }
  · exact valid

structure CreateTableBody.IsValid (body : CreateTableBody) : Prop where
  table : IsValue body.table
  columns : CollectedTexts body.columns
  primaryKey : IsValue body.primaryKey
  constraints : CollectedTexts body.constraints
  foreignKeys : CollectedTexts body.foreignKeys

theorem CreateTableBody.IsValid.edit {body : CreateTableBody} (valid : body.IsValid)
    (method : Method) (texts : List Text) : (body.edit method texts).IsValid := by
  unfold CreateTableBody.edit
  split
  · exact { valid with table := isValue_newValue texts }
  · exact { valid with table := isValue_newValue texts }
  · exact { valid with columns := valid.columns.pushAll texts }
  · exact { valid with primaryKey := isValue_newValue texts }
  · exact { valid with constraints := valid.constraints.pushAll texts }
  · exact { valid with foreignKeys := valid.foreignKeys.pushAll texts }
  · exact valid

structure DropBody.IsValid (body : DropBody) : Prop where
  names : CollectedTexts body.names

theorem DropBody.IsValid.edit {body : DropBody} (valid : body.IsValid) (method : Method)
    (texts : List Text) : (body.edit method texts).IsValid := by
  unfold DropBody.edit
  split
  · exact { valid with names := valid.names.pushAll texts }
  · exact { valid with names := valid.names.pushAll texts }
  · exact { valid with names := valid.names.pushAll texts }
  · exact { valid with names := valid.names.pushAll texts }
  · exact valid

structure CreateIndexBody.IsValid (body : CreateIndexBody) : Prop where
  name : IsValue body.name
  table : IsValue body.table
  method : IsValue body.method
  columns : CollectedTexts body.columns
  included : CollectedTexts body.included
  conditions : CollectedConditions body.conditions

theorem CreateIndexBody.IsValid.edit {body : CreateIndexBody} (valid : body.IsValid)
    (method : Method) (texts : List Text) : (body.edit method texts).IsValid := by
  unfold CreateIndexBody.edit
  split
  · exact { valid with name := isValue_newValue texts }
  · exact { valid with name := isValue_newValue texts }
  · exact { valid with }
  · exact { valid with }
  · exact { valid with table := isValue_newValue texts }
  · exact { valid with }
  · exact { valid with method := isValue_newValue texts }
  · exact { valid with columns := valid.columns.pushAll texts }
  · exact { valid with included := valid.included.pushAll texts }
  · exact { valid with conditions := valid.conditions.pushConditions .and texts }
  · exact { valid with conditions := valid.conditions.pushConditions .or texts }
  · exact valid

structure AlterTableBody.IsValid (body : AlterTableBody) : Prop where
  table : IsValue body.table
  newName : IsValue body.newName
  actions : Collected Prod.snd body.actions

theorem AlterTableBody.IsValid.edit {body : AlterTableBody} (valid : body.IsValid)
    (method : Method) (texts : List Text) : (body.edit method texts).IsValid := by
  unfold AlterTableBody.edit
  split
  · exact { valid with table := isValue_newValue texts }
  · exact { valid with newName := isValue_newValue texts }
  · exact { valid with actions := valid.actions.pushAction .add texts }
  · exact { valid with actions := valid.actions.pushAction .drop texts }
  · exact { valid with actions := valid.actions.pushAction .alter texts }
  · exact { valid with actions := valid.actions.pushAction .rename texts }
  · exact valid

structure TransactionBody.IsValid (body : TransactionBody) : Prop where
  beginMode : ∀ argument ∈ body.beginMode, IsValue argument
  startMode : ∀ argument ∈ body.startMode, IsValue argument
  setMode : ∀ argument ∈ body.setMode, IsValue argument
  commitArgument : ∀ argument ∈ body.commitArgument, IsValue argument
  endArgument : ∀ argument ∈ body.endArgument, IsValue argument

theorem isValue_of_mem_some_newValue (texts : List Text) :
    ∀ argument ∈ some (newValue texts), IsValue argument := by
  intro argument member
  cases member
  exact isValue_newValue texts

theorem TransactionBody.IsValid.edit {body : TransactionBody} (valid : body.IsValid)
    (method : Method) (texts : List Text) : (body.edit method texts).IsValid := by
  unfold TransactionBody.edit
  split
  · exact { valid with beginMode := isValue_of_mem_some_newValue texts }
  · exact { valid with startMode := isValue_of_mem_some_newValue texts }
  · exact { valid with setMode := isValue_of_mem_some_newValue texts }
  · exact { valid with commitArgument := isValue_of_mem_some_newValue texts }
  · exact { valid with endArgument := isValue_of_mem_some_newValue texts }
  · exact valid

/-! ## Frames -/

/-- Raw text is collected, and stands at the given clauses only. -/
structure Frame.IsValid (clauses : List Clause) (frame : Frame) : Prop where
  raw : CollectedTexts frame.raw
  before : frame.before.IsKept clauses
  after : frame.after.IsKept clauses

theorem Frame.isValid_start (clauses : List Clause) (dialect : Dialect) :
    Frame.IsValid clauses { dialect } :=
  ⟨collected_nil _, RawText.isKept_nil _, RawText.isKept_nil _⟩

/-! ## Statements -/

namespace Statement

/-- The common table expressions of a statement. -/
def queries : Statement → List (Text × Operand Statement)
  | select _ _ queries _ => queries
  | insert _ _ queries _ => queries
  | update _ _ queries => queries
  | delete _ _ queries => queries
  | _ => []

/-- The entries of a transaction script. -/
def entries : Statement → List (Operand Statement)
  | transaction _ _ entries => entries
  | _ => []

/-- The statement's body is valid. -/
def HasValidBody : Statement → Prop
  | select _ body _ _ => body.IsValid
  | insert _ body _ _ => body.IsValid
  | update _ body _ => body.IsValid
  | delete _ body _ => body.IsValid
  | values _ body => body.IsValid
  | createTable _ body => body.IsValid
  | dropTable _ body => body.IsValid
  | dropIndex _ body => body.IsValid
  | createIndex _ body => body.IsValid
  | alterTable _ body => body.IsValid
  | transaction _ body _ => body.IsValid

/-- The statement alone is valid, whatever is inside it. -/
structure IsValid (statement : Statement) : Prop where
  frame : statement.frame.IsValid statement.kind.clauses
  body : statement.HasValidBody
  names : ∀ query ∈ statement.queries, IsValue query.1
  commands : ∀ command, Operand.command command ∈ statement.entries → IsValue command.argument

section Frames

variable (frame : Frame) (statement : Statement)

@[simp]
theorem frame_withFrame : (statement.withFrame frame).frame = frame := by cases statement <;> rfl

@[simp]
theorem kind_withFrame : (statement.withFrame frame).kind = statement.kind := by
  cases statement <;> rfl

@[simp]
theorem operands_withFrame : (statement.withFrame frame).operands = statement.operands := by
  cases statement <;> rfl

@[simp]
theorem queries_withFrame : (statement.withFrame frame).queries = statement.queries := by
  cases statement <;> rfl

@[simp]
theorem entries_withFrame : (statement.withFrame frame).entries = statement.entries := by
  cases statement <;> rfl

@[simp]
theorem hasValidBody_withFrame :
    (statement.withFrame frame).HasValidBody ↔ statement.HasValidBody := by
  cases statement <;> rfl

end Frames

theorem IsValid.withFrame {statement : Statement} (valid : statement.IsValid) {frame : Frame}
    (framed : frame.IsValid statement.kind.clauses) : (statement.withFrame frame).IsValid where
  frame := by simpa using framed
  body := by simpa using valid.body
  names := by simpa using valid.names
  commands := by simpa using valid.commands

theorem IsValid.edit {statement : Statement} (valid : statement.IsValid) (method : Method)
    (texts : List Text) : (statement.edit method texts).IsValid := by
  cases statement with
  | select frame body queries operations =>
      exact ⟨valid.frame, SelectBody.IsValid.edit valid.body method texts, valid.names, nofun⟩
  | insert frame body queries source =>
      exact ⟨valid.frame, InsertBody.IsValid.edit valid.body method texts, valid.names, nofun⟩
  | update frame body queries =>
      exact ⟨valid.frame, UpdateBody.IsValid.edit valid.body method texts, valid.names, nofun⟩
  | delete frame body queries =>
      exact ⟨valid.frame, DeleteBody.IsValid.edit valid.body method texts, valid.names, nofun⟩
  | values frame body =>
      exact ⟨valid.frame, ValuesBody.IsValid.edit valid.body method texts, nofun, nofun⟩
  | createTable frame body =>
      exact ⟨valid.frame, CreateTableBody.IsValid.edit valid.body method texts, nofun, nofun⟩
  | dropTable frame body =>
      exact ⟨valid.frame, DropBody.IsValid.edit valid.body method texts, nofun, nofun⟩
  | dropIndex frame body =>
      exact ⟨valid.frame, DropBody.IsValid.edit valid.body method texts, nofun, nofun⟩
  | createIndex frame body =>
      exact ⟨valid.frame, CreateIndexBody.IsValid.edit valid.body method texts, nofun, nofun⟩
  | alterTable frame body =>
      exact ⟨valid.frame, AlterTableBody.IsValid.edit valid.body method texts, nofun, nofun⟩
  | transaction frame body entries =>
      simp only [Statement.edit]
      split
      · refine ⟨valid.frame, valid.body, nofun, ?_⟩
        intro command member
        rcases List.mem_append.mp member with old | new
        · exact valid.commands command old
        · cases List.mem_singleton.mp new
          exact isValue_newValue texts
      · exact ⟨valid.frame, TransactionBody.IsValid.edit valid.body method texts, nofun,
          valid.commands⟩

/-- The body of a new statement is empty. -/
theorem isValid_empty (kind : Kind) (dialect : Dialect) : (empty kind dialect).IsValid := by
  have texts : CollectedTexts [] := collected_nil _
  have value : IsValue [] := .inl rfl
  have framed := Frame.isValid_start (empty kind dialect).kind.clauses dialect
  cases kind with
  | select =>
      exact ⟨framed, ⟨texts, texts, texts, collected_nil _, texts, collected_nil _, texts, texts,
        value, value⟩, nofun, nofun⟩
  | insert => exact ⟨framed, ⟨nofun, value, texts, value, texts⟩, nofun, nofun⟩
  | update => exact ⟨framed, ⟨nofun, texts, texts, texts, collected_nil _, texts⟩, nofun, nofun⟩
  | delete => exact ⟨framed, ⟨value, texts, collected_nil _, texts, value, texts⟩, nofun, nofun⟩
  | values => exact ⟨framed, ⟨texts⟩, nofun, nofun⟩
  | createTable => exact ⟨framed, ⟨value, texts, value, texts, texts⟩, nofun, nofun⟩
  | dropTable => exact ⟨framed, ⟨texts⟩, nofun, nofun⟩
  | dropIndex => exact ⟨framed, ⟨texts⟩, nofun, nofun⟩
  | createIndex =>
      exact ⟨framed, ⟨value, value, value, texts, texts, collected_nil _⟩, nofun, nofun⟩
  | alterTable => exact ⟨framed, ⟨value, value, collected_nil _⟩, nofun, nofun⟩
  | transaction => exact ⟨framed, ⟨nofun, nofun, nofun, nofun, nofun⟩, nofun, nofun⟩

end Statement
end SqlText
