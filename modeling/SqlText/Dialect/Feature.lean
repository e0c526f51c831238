import SqlText.Text.Blank

/-!
# Features of a dialect

A feature is a capability that some dialects have and others lack. A method or a clause that
depends on a feature is available under the dialects that have it.
-/

set_option autoImplicit false

namespace SqlText

/-- The capabilities that differ between dialects. -/
inductive Feature where
  | withClause
  | returning
  | limit
  | setOperations
  | window
  | beginEnd
  | startTransaction
  | setTransaction
  | multiTargetDrop
  | dropIndex
  | createIndex
  | indexConcurrently
  | indexInclude
  | indexOnly
  | indexUsing
  | onConflict
  | overriding
  | defaultValues
  | row
  | insertOr
  | updateOr
  | updateFrom
  | updateJoin
  | partition
  | deleteOrderLimit
  | alterColumn
  | rename
deriving DecidableEq, Repr

namespace Feature

/-- Every feature once. -/
def all : List Feature :=
  [withClause, returning, limit, setOperations, window, beginEnd, startTransaction,
   setTransaction, multiTargetDrop, dropIndex, createIndex, indexConcurrently, indexInclude,
   indexOnly, indexUsing, onConflict, overriding, defaultValues, row, insertOr, updateOr,
   updateFrom, updateJoin, partition, deleteOrderLimit, alterColumn, rename]

/-- The feature's name. -/
def name : Feature → String
  | withClause => "with"
  | returning => "returning"
  | limit => "limit"
  | setOperations => "set_operations"
  | window => "window"
  | beginEnd => "begin_end"
  | startTransaction => "start_transaction"
  | setTransaction => "set_transaction"
  | multiTargetDrop => "multi_target_drop"
  | dropIndex => "drop_index"
  | createIndex => "create_index"
  | indexConcurrently => "index_concurrently"
  | indexInclude => "index_include"
  | indexOnly => "index_only"
  | indexUsing => "index_using"
  | onConflict => "on_conflict"
  | overriding => "overriding"
  | defaultValues => "default_values"
  | row => "row"
  | insertOr => "insert_or"
  | updateOr => "update_or"
  | updateFrom => "update_from"
  | updateJoin => "update_join"
  | partition => "partition"
  | deleteOrderLimit => "delete_order_limit"
  | alterColumn => "alter_column"
  | rename => "rename"

/-- The feature of the given name, in lower case only. -/
def ofName? (name : Text) : Option Feature := all.find? (·.name.toList = name)

end Feature
end SqlText
