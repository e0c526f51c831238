import SqlText.Text.Casing
import SqlText.Text.Digit

/-!
# Engines whose dialects have a name

Besides the dialects whose features are known there are engines that are known by name alone. An
engine is called by its name in lower case, and settings may follow it, each after a comma. A
setting is a name, an equals sign and a value. Without a value it is switched on, and some values
are switches too; with a second equals sign it is left as it is. A later setting replaces an
earlier one of its name. The empty name stands for no engine in particular.

Every engine has two settings: the way in which identifiers are normalised, and the version, whose
three parts are whole numbers with dots between them. Parts of a version that are not given are
zero, and further parts are not looked at. Some engines have one more setting, which may be set to
anything.
-/

set_option autoImplicit false

namespace SqlText.Engine

/-- The name that stands for no engine in particular. -/
def unspecific : Text := "Dialect".toList

/-- The engines by their proper names. -/
def names : List Text :=
  ["Athena", "BigQuery", "ClickHouse", "Databricks", "DAX", "Doris", "Dremio", "Drill", "Druid",
   "DuckDB", "Dune", "Exasol", "Fabric", "Hive", "Materialize", "MySQL", "Oracle", "Postgres",
   "Presto", "PRQL", "Redshift", "RisingWave", "SingleStore", "Snowflake", "Solr", "Spark",
   "Spark2", "SQLite", "StarRocks", "Tableau", "Teradata", "Trino", "TSQL"].map String.toList

/-- The engine that is called by the name in lower case, or by no name. -/
def called? (name : Text) : Option Text :=
  if name.trim = [] then some unspecific else names.find? (·.lower = name.trim)

/-- The setting for the way in which identifiers are normalised. -/
def strategyName : Text := "normalization_strategy".toList

/-- The ways in which identifiers are normalised. -/
def strategies : List Text :=
  ["LOWERCASE", "UPPERCASE", "CASE_SENSITIVE", "CASE_INSENSITIVE",
   "CASE_INSENSITIVE_UPPERCASE"].map String.toList

/-- The setting for the version. -/
def versionName : Text := "version".toList

/-- The setting for what becomes of a path into a variant. -/
def extractName : Text := "variant_extract_is_json_extract".toList

/-- The engines that can be told what becomes of a path into a variant. -/
def extracting : List Text := ["Athena", "Dune", "Presto", "Trino"].map String.toList

/-- The names of the settings that an engine has. -/
def settingNames (proper : Text) : List Text :=
  [strategyName, versionName] ++ if proper ∈ extracting then [extractName] else []

/-- What a setting is set to. -/
inductive Setting where
  /-- On or off. -/
  | switch (on : Bool)
  /-- What it is anyway. -/
  | standard
  /-- A value. -/
  | value (text : Text)
deriving DecidableEq, Repr

/-- The values that switch a setting on, in lower case. -/
def switchingOn : List Text := ["true", "1"].map String.toList

/-- The values that switch a setting off, in lower case. -/
def switchingOff : List Text := ["false", "0"].map String.toList

/-- What a value sets a setting to. -/
def Setting.ofValue (value : Text) : Setting :=
  if value.lower ∈ switchingOn then .switch true
  else if value.lower ∈ switchingOff then .switch false
  else .value value

/-- The name of a setting and what it is set to. -/
def settingOf (text : Text) : Text × Setting :=
  match Text.pieces '=' text with
  | [] => ([], .switch true)
  | [name] => (name.trim, .switch true)
  | [name, value] => (name.trim, .ofValue value.trim)
  | name :: _ => (name.trim, .standard)

/-- How many parts a version has. What stands after them does not count. -/
def versionParts : Nat := 3

/-- Whether a setting is a version: its parts between dots are whole numbers. -/
def Setting.isVersion : Setting → Bool
  | .value text => ((Text.pieces '.' text).take versionParts).all Text.isWhole
  | .switch _ | .standard => false

/-! ## Looking up -/

/-- What comes of asking for an engine. -/
inductive Lookup where
  /-- An engine by its proper name. -/
  | engine (proper : Text)
  /-- There is no such engine, setting or value. -/
  | unknown
  /-- A switch stands where the name of a way to normalise is needed. -/
  | switch
deriving DecidableEq, Repr

/-- The engine of the given proper name, if it has the settings and they are right. The version is
looked at first, then the way of normalising, and last the names of all settings. -/
def withSettings (proper : Text) (settings : List (Text × Setting)) : Lookup :=
  let last (name : Text) : Option Setting := settings.reverse.lookup name
  let isKnown := settings.all fun setting => decide (setting.1 ∈ settingNames proper)
  let found : Lookup := if isKnown then .engine proper else .unknown
  if (last versionName).all Setting.isVersion then
    match last strategyName with
    | none | some .standard => found
    | some (.switch _) => .switch
    | some (.value strategy) => if strategy.upper ∈ strategies then found else .unknown
  else .unknown

/-- The engine that a name with settings stands for. -/
def find (text : Text) : Lookup :=
  match Text.pieces ',' text with
  | [] => .unknown
  | name :: settings =>
      match called? name with
      | none => .unknown
      | some proper => withSettings proper (settings.map settingOf)

end SqlText.Engine
