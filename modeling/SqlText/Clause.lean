import SqlText.Text.Casing
import SqlText.Dialect.Basic

/-!
# Statement kinds and their clauses

A statement is of one of eleven kinds. Ten of them are made of clauses; a transaction script is
made of commands and has no clauses. A clause may be shared by several kinds, and `Kind.gate`
tells which feature it depends on in each: the FROM clause, say, is always part of a SELECT, but
of an UPDATE only under dialects with that feature.

Callers name a clause by its name in any case, with spaces or underscores between its words
(`Kind.clause?`).
-/

set_option autoImplicit false

namespace SqlText

/-- The parts that statements are made of and that raw text can be attached to. -/
inductive Clause where
  | withClause
  | select
  | fromClause
  | join
  | whereClause
  | groupBy
  | having
  | window
  | orderBy
  | limit
  | offset
  | union
  | intersect
  | except
  | insertInto
  | insertOr
  | replaceInto
  | overriding
  | values
  | defaultValues
  | onConflict
  | returning
  | update
  | updateOr
  | set
  | deleteFrom
  | partition
  | createTable
  | column
  | primaryKey
  | constraint
  | foreignKey
  | dropTable
  | dropIndex
  | createIndex
  | onClause
  | usingClause
  | includeClause
  | alterTable
  | renameTo
  | actions
deriving DecidableEq, Repr

namespace Clause

/-- The clause's name. -/
def name : Clause → String
  | withClause => "with"
  | select => "select"
  | fromClause => "from"
  | join => "join"
  | whereClause => "where"
  | groupBy => "group_by"
  | having => "having"
  | window => "window"
  | orderBy => "order_by"
  | limit => "limit"
  | offset => "offset"
  | union => "union"
  | intersect => "intersect"
  | except => "except"
  | insertInto => "insert_into"
  | insertOr => "insert_or"
  | replaceInto => "replace_into"
  | overriding => "overriding"
  | values => "values"
  | defaultValues => "default_values"
  | onConflict => "on_conflict"
  | returning => "returning"
  | update => "update"
  | updateOr => "update_or"
  | set => "set"
  | deleteFrom => "delete_from"
  | partition => "partition"
  | createTable => "create_table"
  | column => "column"
  | primaryKey => "primary_key"
  | constraint => "constraint"
  | foreignKey => "foreign_key"
  | dropTable => "drop_table"
  | dropIndex => "drop_index"
  | createIndex => "create_index"
  | onClause => "on"
  | usingClause => "using"
  | includeClause => "include"
  | alterTable => "alter_table"
  | renameTo => "rename_to"
  | actions => "actions"

/-- The clause's name in upper case. -/
def upperName (clause : Clause) : Text := clause.name.toList.map Char.toUpper

end Clause

/-- The kinds of statement. -/
inductive Kind where
  | select
  | insert
  | update
  | delete
  | values
  | createTable
  | dropTable
  | dropIndex
  | createIndex
  | alterTable
  | transaction
deriving DecidableEq, Repr

namespace Kind

/-- Every kind once. -/
def all : List Kind :=
  [select, insert, update, delete, values, createTable, dropTable, dropIndex, createIndex,
   alterTable, transaction]

/-- The kind's name. -/
def name : Kind → String
  | select => "Select"
  | insert => "Insert"
  | update => "Update"
  | delete => "Delete"
  | values => "Values"
  | createTable => "CreateTable"
  | dropTable => "DropTable"
  | dropIndex => "DropIndex"
  | createIndex => "CreateIndex"
  | alterTable => "AlterTable"
  | transaction => "Transaction"

/-- The kind of the given name. -/
def ofName? (name : String) : Option Kind := all.find? (·.name = name)

/-- The name of the family that the kind's clauses form. -/
def clauseFamily : Kind → String
  | createTable => "CreateTableParams"
  | dropTable => "DropTableParams"
  | dropIndex => "DropIndexParams"
  | createIndex => "CreateIndexParams"
  | kind => kind.name ++ "Clause"

/-- The kind's clauses in the order in which they are written. -/
def clauses : Kind → List Clause
  | select =>
      [.withClause, .select, .fromClause, .join, .whereClause, .groupBy, .having, .window,
       .orderBy, .limit, .offset, .union, .intersect, .except]
  | insert =>
      [.withClause, .insertInto, .insertOr, .replaceInto, .overriding, .values, .defaultValues,
       .select, .onConflict, .returning]
  | update => [.withClause, .update, .updateOr, .set, .fromClause, .join, .whereClause, .returning]
  | delete => [.withClause, .deleteFrom, .partition, .whereClause, .orderBy, .limit, .returning]
  | values => [.values]
  | createTable => [.createTable, .column, .primaryKey, .constraint, .foreignKey]
  | dropTable => [.dropTable]
  | dropIndex => [.dropIndex]
  | createIndex => [.createIndex, .onClause, .usingClause, .column, .includeClause, .whereClause]
  | alterTable => [.alterTable, .renameTo, .actions]
  | transaction => []

/-- The feature that a clause depends on in a statement of the kind. -/
def gate : Kind → Clause → Option Feature
  | select, .withClause => some .withClause
  | select, .window => some .window
  | select, .limit => some .limit
  | select, .offset => some .limit
  | select, .union => some .setOperations
  | select, .intersect => some .setOperations
  | select, .except => some .setOperations
  | insert, .withClause => some .withClause
  | insert, .insertOr => some .insertOr
  | insert, .replaceInto => some .insertOr
  | insert, .overriding => some .overriding
  | insert, .defaultValues => some .defaultValues
  | insert, .onConflict => some .onConflict
  | insert, .returning => some .returning
  | update, .withClause => some .withClause
  | update, .updateOr => some .updateOr
  | update, .fromClause => some .updateFrom
  | update, .join => some .updateJoin
  | update, .returning => some .returning
  | delete, .withClause => some .withClause
  | delete, .partition => some .partition
  | delete, .orderBy => some .deleteOrderLimit
  | delete, .limit => some .deleteOrderLimit
  | delete, .returning => some .returning
  | createIndex, .usingClause => some .indexUsing
  | createIndex, .includeClause => some .indexInclude
  | alterTable, .renameTo => some .rename
  | _, _ => none

/-- The feature without which a dialect has no statement of the kind at all. -/
def requirement : Kind → Option Feature
  | dropIndex => some .dropIndex
  | createIndex => some .createIndex
  | _ => none

/-- A clause name as it is looked up: trimmed, in upper case, with underscores for spaces. -/
def clauseKey (name : Text) : Text :=
  name.trim.upper.map fun c => if c = ' ' then '_' else c

/-- The kind's clause of the given name. -/
def clause? (kind : Kind) (name : Text) : Option Clause :=
  kind.clauses.find? (·.upperName = clauseKey name)

end Kind
end SqlText
