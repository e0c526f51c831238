import SqlText.Dialect.Feature
import SqlText.Value

/-!
# Dialects

A dialect is a name and the features it has. Five dialects are built in: the generic one, which
has every feature, standard SQL, and those of three engines.

The name only matters where a dialect is looked up or told. A dialect that is never looked up may
go by any value.
-/

set_option autoImplicit false

namespace SqlText

/-- A dialect with its features. -/
structure Dialect where
  name : Value
  features : List Feature

namespace Dialect

/-- Whether the dialect has the feature. -/
def supports (dialect : Dialect) (feature : Feature) : Bool := feature ∈ dialect.features

/-- Whether the dialect has what a method or a clause depends on, if it depends on anything. -/
def offers (dialect : Dialect) : Option Feature → Bool
  | none => true
  | some feature => dialect.supports feature

/-- The names of the dialect's features in alphabetical order. -/
def featureNames (dialect : Dialect) : List String :=
  ((Feature.all.filter dialect.supports).map Feature.name).mergeSort (fun a b => decide (a ≤ b))

/-- The dialect with every feature. -/
def generic : Dialect := ⟨.text "generic".toList, Feature.all⟩

/-- What the SQL standard itself has. -/
def standard : Dialect :=
  ⟨.text "standard".toList,
   [.window, .startTransaction, .setTransaction, .overriding, .defaultValues]⟩

/-- The dialect of PostgreSQL. -/
def postgres : Dialect :=
  ⟨.text "postgres".toList,
   [.withClause, .returning, .limit, .setOperations, .window, .beginEnd, .startTransaction,
    .setTransaction, .multiTargetDrop, .dropIndex, .createIndex, .indexConcurrently,
    .indexInclude, .indexOnly, .indexUsing, .onConflict, .overriding, .defaultValues,
    .updateFrom, .alterColumn, .rename]⟩

/-- The dialect of SQLite. -/
def sqlite : Dialect :=
  ⟨.text "sqlite".toList,
   [.withClause, .returning, .limit, .setOperations, .window, .beginEnd, .dropIndex,
    .createIndex, .onConflict, .defaultValues, .insertOr, .updateOr, .updateFrom, .updateJoin,
    .rename]⟩

/-- The dialect of MySQL. -/
def mysql : Dialect :=
  ⟨.text "mysql".toList,
   [.limit, .setOperations, .window, .startTransaction, .setTransaction, .createIndex,
    .indexUsing, .row, .partition, .deleteOrderLimit, .alterColumn]⟩

end Dialect
end SqlText
