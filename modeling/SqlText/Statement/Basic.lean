import SqlText.Accumulation
import SqlText.Clause
import SqlText.Command

/-!
# Statements

A statement holds the content of its clauses, not their text: what it renders to depends on a
layout and on its dialect, which decides whether a clause takes part. The content that no other
statement takes part in is the statement's body, one structure for each kind. The statements that
stand inside a statement are kept beside its body, as values: the queries of its common table
expressions, the operands of its set operations, the source of an INSERT and the entries of a
transaction script. So a statement is a finite tree. It is the value that an object has at a time:
the objects themselves refer to each other, and what is put inside one of them is a copy (`Store`).

What may stand inside a statement is an operand: another statement, a single command, or a content
that is the same in every layout. Such a content is not looked at before the statement is written,
and has to be a text then.
-/

set_option autoImplicit false

namespace SqlText

/-- What every statement has beside its clauses: a dialect, raw text at its start, and raw text
before and after its clauses. -/
structure Frame where
  dialect : Dialect
  raw : List Text := []
  before : RawText Clause := []
  after : RawText Clause := []

namespace Frame

/-- Whether a clause of a statement of the kind takes part under the frame's dialect. -/
def enables (frame : Frame) (kind : Kind) (clause : Clause) : Bool :=
  frame.dialect.offers (kind.gate clause)

end Frame

/-! ## Bodies -/

/-- The clauses of a SELECT, its queries and set operations apart. -/
structure SelectBody where
  columns : List Text := []
  tables : List Text := []
  joins : List Text := []
  conditions : List Condition := []
  groups : List Text := []
  groupConditions : List Condition := []
  windows : List Text := []
  order : List Text := []
  limit : Text := []
  offset : Text := []

/-- The three ways to name the target of an INSERT. -/
inductive InsertTarget where
  | insertInto
  | insertOr
  | replaceInto
deriving DecidableEq, Repr

namespace InsertTarget

/-- The keyword before the target. -/
def word : InsertTarget → Text
  | insertInto => "INSERT INTO".toList
  | insertOr => "INSERT OR".toList
  | replaceInto => "REPLACE INTO".toList

/-- The clause that the target belongs to. -/
def clause : InsertTarget → Clause
  | insertInto => .insertInto
  | insertOr => .insertOr
  | replaceInto => .replaceInto

end InsertTarget

/-- The clauses of an INSERT, its queries and its source apart. -/
structure InsertBody where
  target : Option (InsertTarget × Text) := none
  overriding : Text := []
  rows : List Text := []
  defaultValues : Bool := false
  onConflict : Text := []
  output : List Text := []

/-- The two ways to name the table of an UPDATE. -/
inductive UpdateTarget where
  | update
  | updateOr
deriving DecidableEq, Repr

namespace UpdateTarget

/-- The keyword before the table. -/
def word : UpdateTarget → Text
  | update => "UPDATE".toList
  | updateOr => "UPDATE OR".toList

/-- The clause that the table belongs to. -/
def clause : UpdateTarget → Clause
  | update => .update
  | updateOr => .updateOr

end UpdateTarget

/-- The clauses of an UPDATE, its queries apart. -/
structure UpdateBody where
  target : Option (UpdateTarget × Text) := none
  assignments : List Text := []
  tables : List Text := []
  joins : List Text := []
  conditions : List Condition := []
  output : List Text := []

/-- The clauses of a DELETE, its queries apart. -/
structure DeleteBody where
  table : Text := []
  partitions : List Text := []
  conditions : List Condition := []
  order : List Text := []
  limit : Text := []
  output : List Text := []

/-- A list of rows. -/
structure ValuesBody where
  rows : List Text := []

/-- A table and the four groups of its parameter list. -/
structure CreateTableBody where
  table : Text := []
  ifNotExists : Bool := false
  columns : List Text := []
  primaryKey : Text := []
  constraints : List Text := []
  foreignKeys : List Text := []

/-- The tables or indexes to drop. -/
structure DropBody where
  names : List Text := []
  ifExists : Bool := false

/-- An index, the table it is on and what it covers. -/
structure CreateIndexBody where
  name : Text := []
  ifNotExists : Bool := false
  unique : Bool := false
  concurrently : Bool := false
  table : Text := []
  only : Bool := false
  method : Text := []
  columns : List Text := []
  included : List Text := []
  conditions : List Condition := []

/-- The changes to a table. -/
inductive AlterAction where
  | add
  | drop
  | alter
  | rename
deriving DecidableEq, Repr

namespace AlterAction

/-- The action's keyword. -/
def word : AlterAction → Text
  | add => "ADD".toList
  | drop => "DROP".toList
  | alter => "ALTER".toList
  | rename => "RENAME".toList

end AlterAction

/-- A table, its new name and the changes to it. -/
structure AlterTableBody where
  table : Text := []
  newName : Text := []
  actions : List (AlterAction × Text) := []

/-- The arguments of the commands that a transaction script has at most once. -/
structure TransactionBody where
  beginMode : Option Text := none
  startMode : Option Text := none
  setMode : Option Text := none
  commitArgument : Option Text := none
  endArgument : Option Text := none

/-! ## The tree of statements -/

/-- How a query combines with the one before it. -/
inductive SetOperation where
  | union
  | intersect
  | except
deriving DecidableEq, Repr

namespace SetOperation

/-- The operations in the order of their clauses. -/
def all : List SetOperation := [union, intersect, except]

/-- The operation's keyword. -/
def word : SetOperation → Text
  | union => "UNION".toList
  | intersect => "INTERSECT".toList
  | except => "EXCEPT".toList

/-- The clause that the operation belongs to. -/
def clause : SetOperation → Clause
  | union => .union
  | intersect => .intersect
  | except => .except

end SetOperation

/-- What may stand inside a statement. -/
inductive Operand (σ : Type) where
  | statement (statement : σ)
  | command (command : Command)
  | fixed (content : Value)

/-- A statement of one of the eleven kinds with the statements inside it. -/
inductive Statement where
  | select (frame : Frame) (body : SelectBody) (queries : List (Text × Operand Statement))
      (operations : List (SetOperation × Operand Statement))
  | insert (frame : Frame) (body : InsertBody) (queries : List (Text × Operand Statement))
      (source : Option Statement)
  | update (frame : Frame) (body : UpdateBody) (queries : List (Text × Operand Statement))
  | delete (frame : Frame) (body : DeleteBody) (queries : List (Text × Operand Statement))
  | values (frame : Frame) (body : ValuesBody)
  | createTable (frame : Frame) (body : CreateTableBody)
  | dropTable (frame : Frame) (body : DropBody)
  | dropIndex (frame : Frame) (body : DropBody)
  | createIndex (frame : Frame) (body : CreateIndexBody)
  | alterTable (frame : Frame) (body : AlterTableBody)
  | transaction (frame : Frame) (body : TransactionBody) (entries : List (Operand Statement))

namespace Statement

/-- The statement's kind. -/
def kind : Statement → Kind
  | select .. => .select
  | insert .. => .insert
  | update .. => .update
  | delete .. => .delete
  | values .. => .values
  | createTable .. => .createTable
  | dropTable .. => .dropTable
  | dropIndex .. => .dropIndex
  | createIndex .. => .createIndex
  | alterTable .. => .alterTable
  | transaction .. => .transaction

/-- The statement's frame. -/
def frame : Statement → Frame
  | select frame .. => frame
  | insert frame .. => frame
  | update frame .. => frame
  | delete frame .. => frame
  | values frame .. => frame
  | createTable frame .. => frame
  | dropTable frame .. => frame
  | dropIndex frame .. => frame
  | createIndex frame .. => frame
  | alterTable frame .. => frame
  | transaction frame .. => frame

/-- The statement in another frame. -/
def withFrame (frame : Frame) : Statement → Statement
  | select _ body queries operations => select frame body queries operations
  | insert _ body queries source => insert frame body queries source
  | update _ body queries => update frame body queries
  | delete _ body queries => delete frame body queries
  | values _ body => values frame body
  | createTable _ body => createTable frame body
  | dropTable _ body => dropTable frame body
  | dropIndex _ body => dropIndex frame body
  | createIndex _ body => createIndex frame body
  | alterTable _ body => alterTable frame body
  | transaction _ body entries => transaction frame body entries

/-- The statement's dialect. -/
def dialect (statement : Statement) : Dialect := statement.frame.dialect

/-- The statement under another dialect, with the content of all its clauses kept. -/
def withDialect (statement : Statement) (dialect : Dialect) : Statement :=
  statement.withFrame { statement.frame with dialect }

/-- A statement of the kind with empty clauses. -/
def empty (kind : Kind) (dialect : Dialect) : Statement :=
  let frame : Frame := { dialect }
  match kind with
  | .select => select frame {} [] []
  | .insert => insert frame {} [] none
  | .update => update frame {} []
  | .delete => delete frame {} []
  | .values => values frame {}
  | .createTable => createTable frame {}
  | .dropTable => dropTable frame {}
  | .dropIndex => dropIndex frame {}
  | .createIndex => createIndex frame {}
  | .alterTable => alterTable frame {}
  | .transaction => transaction frame {} []

end Statement
end SqlText
