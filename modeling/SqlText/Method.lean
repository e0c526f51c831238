import SqlText.Clause

/-!
# Methods

The methods of all statement kinds, with the names they are called by: some have several. For
each kind, `Kind.access` tells whether the kind has the method and which feature of the dialect
it depends on, and `Kind.arity` how many arguments it takes. The dialect and its name are there to
be looked at; they cannot be called, with whatever arguments.
-/

set_option autoImplicit false

namespace SqlText

/-- What can be done with a statement. -/
inductive Method where
  | raw
  | rawBefore
  | rawAfter
  | render
  | toText
  | quote
  | dialect
  | dialectName
  | copy
  | print
  | debug
  | withQuery
  | select
  | fromTables
  | crossJoin
  | innerJoin
  | leftJoin
  | rightJoin
  | whereAnd
  | whereOr
  | groupBy
  | havingAnd
  | havingOr
  | window
  | orderBy
  | limit
  | offset
  | union
  | intersect
  | except
  | insertInto
  | insertOr
  | replaceInto
  | overriding
  | values
  | row
  | defaultValues
  | onConflict
  | returning
  | update
  | updateOr
  | set
  | deleteFrom
  | partition
  | createTable
  | createTableIfNotExists
  | column
  | primaryKey
  | constraint
  | foreignKey
  | dropTable
  | dropTableIfExists
  | dropIndex
  | dropIndexIfExists
  | createIndex
  | createIndexIfNotExists
  | unique
  | concurrently
  | onTable
  | only
  | usingMethod
  | includeColumns
  | alterTable
  | renameTo
  | add
  | drop
  | alter
  | rename
  | begin
  | startTransaction
  | setTransaction
  | savepoint
  | releaseSavepoint
  | rollback
  | commit
  | finish
  | insert
  | delete
deriving DecidableEq, Repr

namespace Method

/-- The methods under each of their names. -/
def table : List (String × Method) :=
  [("raw", raw), ("raw_before", rawBefore), ("raw_after", rawAfter), ("render", render),
   ("to_text", toText), ("__str__", toText), ("__repr__", quote), ("dialect", dialect),
   ("dialect_name", dialectName), ("copy", copy), ("clone", copy), ("__copy__", copy),
   ("print", print), ("debug", debug), ("with_", withQuery), ("select", select),
   ("from_", fromTables),
   ("cross_join", crossJoin), ("inner_join", innerJoin), ("left_join", leftJoin),
   ("right_join", rightJoin), ("where_clause", whereAnd), ("where", whereAnd),
   ("where_and", whereAnd), ("where_or", whereOr), ("group_by", groupBy), ("having", havingAnd),
   ("having_and", havingAnd), ("having_or", havingOr), ("window", window),
   ("order_by", orderBy), ("limit", limit), ("offset", offset), ("union", union),
   ("intersect", intersect), ("except_", except), ("insert_into", insertInto),
   ("insert_or", insertOr), ("replace_into", replaceInto), ("overriding", overriding),
   ("values", values), ("row", row), ("default_values", defaultValues),
   ("on_conflict", onConflict), ("returning", returning), ("update", update),
   ("update_or", updateOr), ("set", set), ("delete_from", deleteFrom),
   ("partition", partition), ("create_table", createTable),
   ("create_table_if_not_exists", createTableIfNotExists), ("column", column),
   ("primary_key", primaryKey), ("constraint", constraint), ("foreign_key", foreignKey),
   ("drop_table", dropTable), ("drop_table_if_exists", dropTableIfExists),
   ("drop_index", dropIndex), ("drop_index_if_exists", dropIndexIfExists),
   ("create_index", createIndex), ("create_index_if_not_exists", createIndexIfNotExists),
   ("unique", unique), ("concurrently", concurrently), ("on", onTable), ("only", only),
   ("using", usingMethod), ("include", includeColumns), ("alter_table", alterTable),
   ("rename_to", renameTo), ("add", add), ("drop", drop), ("alter", alter), ("rename", rename),
   ("begin", begin), ("start_transaction", startTransaction),
   ("set_transaction", setTransaction), ("savepoint", savepoint),
   ("release_savepoint", releaseSavepoint), ("rollback", rollback), ("commit", commit),
   ("end", finish), ("insert", insert), ("delete", delete)]

/-- The method of the given name. -/
def ofName? (name : Text) : Option Method :=
  (table.find? fun entry => entry.1.toList = name).map Prod.snd

end Method

/-- Whether a kind has a method. -/
inductive Access where
  /-- The kind has no such method. -/
  | absent
  /-- The method is there under every dialect. -/
  | always
  /-- The method is there under the dialects with the feature. -/
  | gated (feature : Feature)
deriving DecidableEq, Repr

/-- How many arguments a method takes: at least `least`, at most `most` if there is a limit. -/
structure Arity where
  least : Nat
  most : Option Nat
deriving DecidableEq, Repr

namespace Arity

/-- No argument. -/
def none : Arity := ⟨0, some 0⟩

/-- One argument. -/
def one : Arity := ⟨1, some 1⟩

/-- One argument or none. -/
def optional : Arity := ⟨0, some 1⟩

/-- Any number of arguments. -/
def any : Arity := ⟨0, Option.none⟩

/-- No number of arguments. -/
def never : Arity := ⟨1, some 0⟩

/-- Whether the number of arguments fits. -/
def fits (arity : Arity) (count : Nat) : Bool :=
  decide (arity.least ≤ count) && arity.most.all fun most => decide (count ≤ most)

end Arity

namespace Kind

/-- The methods that every kind but the transaction script has. -/
def clauseAccess : Method → Access
  | .rawBefore | .rawAfter => .always
  | _ => .absent

/-- The methods for conditions. -/
def conditionAccess : Method → Access
  | .whereAnd | .whereOr => .always
  | method => clauseAccess method

/-- Whether a SELECT has the method. -/
def selectAccess : Method → Access
  | .withQuery => .gated .withClause
  | .window => .gated .window
  | .limit | .offset => .gated .limit
  | .union | .intersect | .except => .gated .setOperations
  | .select | .fromTables | .crossJoin | .innerJoin | .leftJoin | .rightJoin | .groupBy
  | .havingAnd | .havingOr | .orderBy => .always
  | method => conditionAccess method

/-- Whether an INSERT has the method. -/
def insertAccess : Method → Access
  | .withQuery => .gated .withClause
  | .insertOr | .replaceInto => .gated .insertOr
  | .overriding => .gated .overriding
  | .row => .gated .row
  | .defaultValues => .gated .defaultValues
  | .onConflict => .gated .onConflict
  | .returning => .gated .returning
  | .insertInto | .values | .select => .always
  | method => clauseAccess method

/-- Whether an UPDATE has the method. -/
def updateAccess : Method → Access
  | .withQuery => .gated .withClause
  | .updateOr => .gated .updateOr
  | .fromTables => .gated .updateFrom
  | .crossJoin | .innerJoin | .leftJoin | .rightJoin => .gated .updateJoin
  | .returning => .gated .returning
  | .update | .set => .always
  | method => conditionAccess method

/-- Whether a DELETE has the method. -/
def deleteAccess : Method → Access
  | .withQuery => .gated .withClause
  | .partition => .gated .partition
  | .orderBy | .limit => .gated .deleteOrderLimit
  | .returning => .gated .returning
  | .deleteFrom => .always
  | method => conditionAccess method

/-- Whether a list of rows has the method. -/
def valuesAccess : Method → Access
  | .row => .gated .row
  | .values => .always
  | method => clauseAccess method

/-- Whether a CREATE TABLE has the method. -/
def createTableAccess : Method → Access
  | .createTable | .createTableIfNotExists | .column | .primaryKey | .constraint
  | .foreignKey => .always
  | method => clauseAccess method

/-- Whether a DROP TABLE has the method. -/
def dropTableAccess : Method → Access
  | .dropTable | .dropTableIfExists => .always
  | method => clauseAccess method

/-- Whether a DROP INDEX has the method. -/
def dropIndexAccess : Method → Access
  | .dropIndex | .dropIndexIfExists => .always
  | method => clauseAccess method

/-- Whether a CREATE INDEX has the method. -/
def createIndexAccess : Method → Access
  | .concurrently => .gated .indexConcurrently
  | .only => .gated .indexOnly
  | .usingMethod => .gated .indexUsing
  | .includeColumns => .gated .indexInclude
  | .createIndex | .createIndexIfNotExists | .unique | .onTable | .column => .always
  | method => conditionAccess method

/-- Whether an ALTER TABLE has the method. -/
def alterTableAccess : Method → Access
  | .renameTo | .rename => .gated .rename
  | .alter => .gated .alterColumn
  | .alterTable | .add | .drop => .always
  | method => clauseAccess method

/-- Whether a transaction script has the method. -/
def transactionAccess : Method → Access
  | .begin | .finish => .gated .beginEnd
  | .startTransaction => .gated .startTransaction
  | .setTransaction => .gated .setTransaction
  | .savepoint | .releaseSavepoint | .rollback | .commit | .select | .insert | .update
  | .delete | .createTable | .dropTable | .alterTable => .always
  | _ => .absent

/-- Whether a statement of the kind has the method. -/
def access (kind : Kind) : Method → Access
  | .raw | .render | .toText | .quote | .dialect | .dialectName | .copy | .print | .debug => .always
  | method =>
      match kind with
      | select => selectAccess method
      | insert => insertAccess method
      | update => updateAccess method
      | delete => deleteAccess method
      | values => valuesAccess method
      | createTable => createTableAccess method
      | dropTable => dropTableAccess method
      | dropIndex => dropIndexAccess method
      | createIndex => createIndexAccess method
      | alterTable => alterTableAccess method
      | transaction => transactionAccess method

/-- How many arguments a method takes in a statement of the kind. -/
def arity : Kind → Method → Arity
  | select, .select => .any
  | dropTable, .dropTable => .any
  | _, .raw | _, .fromTables | _, .whereAnd | _, .whereOr | _, .groupBy | _, .havingAnd
  | _, .havingOr | _, .window | _, .orderBy | _, .values | _, .row | _, .returning | _, .set
  | _, .partition | _, .column | _, .constraint | _, .foreignKey | _, .includeColumns
  | _, .dropTableIfExists | _, .dropIndex | _, .dropIndexIfExists => .any
  | _, .rawBefore | _, .rawAfter => ⟨1, Option.none⟩
  | _, .dialect | _, .dialectName => .never
  | _, .defaultValues | _, .unique | _, .concurrently | _, .only | _, .toText | _, .quote
  | _, .copy => .none
  | _, .begin | _, .startTransaction | _, .setTransaction | _, .rollback | _, .commit
  | _, .finish | _, .render | _, .print | _, .debug => .optional
  | _, .withQuery => ⟨2, some 2⟩
  | _, _ => .one

end Kind
end SqlText
