import SqlText.Method
import SqlText.Statement.Basic
import SqlText.Text.Parenthesized

/-!
# What a call changes

A call that is given texts changes one clause of a statement: it adds to a list, or sets a single
value or a flag. A method that a kind does not have leaves its body as it is.
-/

set_option autoImplicit false

namespace SqlText

/-- The single value that a call sets: its first text, trimmed. -/
def newValue (texts : List Text) : Text := (texts.headD []).trim

/-- The trimmed texts that are not empty. -/
def givenTexts (texts : List Text) : List Text := (texts.map Text.trim).filter (· ≠ [])

/-- A target that a call sets: an empty text takes the target away. -/
def newTarget {τ : Type} (way : τ) (texts : List Text) : Option (τ × Text) :=
  if newValue texts = [] then none else some (way, newValue texts)

/-- The joins with one of the given kind for every text. -/
def pushJoins (joins : List Text) (word : Text) (texts : List Text) : List Text :=
  pushAll joins ((givenTexts texts).map fun text => word ++ ' ' :: text)

/-- The rows with one in the explicit notation for every text. -/
def pushRows (rows : List Text) (texts : List Text) : List Text :=
  pushAll rows ((givenTexts texts).map fun text => "ROW".toList ++ text.parenthesized)

/-- The actions with one more at the end, unless it is empty or already there. -/
def pushAction (actions : List (AlterAction × Text)) (action : AlterAction) (texts : List Text) :
    List (AlterAction × Text) :=
  let text := newValue texts
  if text = [] ∨ (action, text) ∈ actions then actions else actions ++ [(action, text)]

/-- A SELECT after a call. -/
def SelectBody.edit (body : SelectBody) (method : Method) (texts : List Text) : SelectBody :=
  match method with
  | .select => { body with columns := pushAll body.columns texts }
  | .fromTables => { body with tables := pushAll body.tables texts }
  | .crossJoin => { body with joins := pushJoins body.joins "CROSS JOIN".toList texts }
  | .innerJoin => { body with joins := pushJoins body.joins "INNER JOIN".toList texts }
  | .leftJoin => { body with joins := pushJoins body.joins "LEFT JOIN".toList texts }
  | .rightJoin => { body with joins := pushJoins body.joins "RIGHT JOIN".toList texts }
  | .whereAnd => { body with conditions := pushConditions body.conditions .and texts }
  | .whereOr => { body with conditions := pushConditions body.conditions .or texts }
  | .groupBy => { body with groups := pushAll body.groups texts }
  | .havingAnd => { body with groupConditions := pushConditions body.groupConditions .and texts }
  | .havingOr => { body with groupConditions := pushConditions body.groupConditions .or texts }
  | .window => { body with windows := pushAll body.windows texts }
  | .orderBy => { body with order := pushAll body.order texts }
  | .limit => { body with limit := newValue texts }
  | .offset => { body with offset := newValue texts }
  | _ => body

/-- An INSERT after a call. -/
def InsertBody.edit (body : InsertBody) (method : Method) (texts : List Text) : InsertBody :=
  match method with
  | .insertInto => { body with target := newTarget .insertInto texts }
  | .insertOr => { body with target := newTarget .insertOr texts }
  | .replaceInto => { body with target := newTarget .replaceInto texts }
  | .overriding => { body with overriding := newValue texts }
  | .values => { body with rows := pushAll body.rows texts }
  | .row => { body with rows := pushRows body.rows texts }
  | .defaultValues => { body with defaultValues := true }
  | .onConflict => { body with onConflict := newValue texts }
  | .returning => { body with output := pushAll body.output texts }
  | _ => body

/-- An UPDATE after a call. -/
def UpdateBody.edit (body : UpdateBody) (method : Method) (texts : List Text) : UpdateBody :=
  match method with
  | .update => { body with target := newTarget .update texts }
  | .updateOr => { body with target := newTarget .updateOr texts }
  | .set => { body with assignments := pushAll body.assignments texts }
  | .fromTables => { body with tables := pushAll body.tables texts }
  | .crossJoin => { body with joins := pushJoins body.joins "CROSS JOIN".toList texts }
  | .innerJoin => { body with joins := pushJoins body.joins "INNER JOIN".toList texts }
  | .leftJoin => { body with joins := pushJoins body.joins "LEFT JOIN".toList texts }
  | .rightJoin => { body with joins := pushJoins body.joins "RIGHT JOIN".toList texts }
  | .whereAnd => { body with conditions := pushConditions body.conditions .and texts }
  | .whereOr => { body with conditions := pushConditions body.conditions .or texts }
  | .returning => { body with output := pushAll body.output texts }
  | _ => body

/-- A DELETE after a call. -/
def DeleteBody.edit (body : DeleteBody) (method : Method) (texts : List Text) : DeleteBody :=
  match method with
  | .deleteFrom => { body with table := newValue texts }
  | .partition => { body with partitions := pushAll body.partitions texts }
  | .whereAnd => { body with conditions := pushConditions body.conditions .and texts }
  | .whereOr => { body with conditions := pushConditions body.conditions .or texts }
  | .orderBy => { body with order := pushAll body.order texts }
  | .limit => { body with limit := newValue texts }
  | .returning => { body with output := pushAll body.output texts }
  | _ => body

/-- A list of rows after a call. -/
def ValuesBody.edit (body : ValuesBody) (method : Method) (texts : List Text) : ValuesBody :=
  match method with
  | .values => { body with rows := pushAll body.rows texts }
  | .row => { body with rows := pushRows body.rows texts }
  | _ => body

/-- A CREATE TABLE after a call. -/
def CreateTableBody.edit (body : CreateTableBody) (method : Method) (texts : List Text) :
    CreateTableBody :=
  match method with
  | .createTable => { body with table := newValue texts, ifNotExists := false }
  | .createTableIfNotExists => { body with table := newValue texts, ifNotExists := true }
  | .column => { body with columns := pushAll body.columns texts }
  | .primaryKey => { body with primaryKey := newValue texts }
  | .constraint => { body with constraints := pushAll body.constraints texts }
  | .foreignKey => { body with foreignKeys := pushAll body.foreignKeys texts }
  | _ => body

/-- A DROP after a call. -/
def DropBody.edit (body : DropBody) (method : Method) (texts : List Text) : DropBody :=
  match method with
  | .dropTable | .dropIndex => { body with names := pushAll body.names texts }
  | .dropTableIfExists | .dropIndexIfExists =>
      { body with names := pushAll body.names texts, ifExists := true }
  | _ => body

/-- A CREATE INDEX after a call. -/
def CreateIndexBody.edit (body : CreateIndexBody) (method : Method) (texts : List Text) :
    CreateIndexBody :=
  match method with
  | .createIndex => { body with name := newValue texts, ifNotExists := false }
  | .createIndexIfNotExists => { body with name := newValue texts, ifNotExists := true }
  | .unique => { body with unique := true }
  | .concurrently => { body with concurrently := true }
  | .onTable => { body with table := newValue texts }
  | .only => { body with only := true }
  | .usingMethod => { body with method := newValue texts }
  | .column => { body with columns := pushAll body.columns texts }
  | .includeColumns => { body with included := pushAll body.included texts }
  | .whereAnd => { body with conditions := pushConditions body.conditions .and texts }
  | .whereOr => { body with conditions := pushConditions body.conditions .or texts }
  | _ => body

/-- An ALTER TABLE after a call. -/
def AlterTableBody.edit (body : AlterTableBody) (method : Method) (texts : List Text) :
    AlterTableBody :=
  match method with
  | .alterTable => { body with table := newValue texts }
  | .renameTo => { body with newName := newValue texts }
  | .add => { body with actions := pushAction body.actions .add texts }
  | .drop => { body with actions := pushAction body.actions .drop texts }
  | .alter => { body with actions := pushAction body.actions .alter texts }
  | .rename => { body with actions := pushAction body.actions .rename texts }
  | _ => body

/-- The single commands of a transaction script after a call. -/
def TransactionBody.edit (body : TransactionBody) (method : Method) (texts : List Text) :
    TransactionBody :=
  match method with
  | .begin => { body with beginMode := some (newValue texts) }
  | .startTransaction => { body with startMode := some (newValue texts) }
  | .setTransaction => { body with setMode := some (newValue texts) }
  | .commit => { body with commitArgument := some (newValue texts) }
  | .finish => { body with endArgument := some (newValue texts) }
  | _ => body

/-- The command that a method adds at the end of a transaction script. -/
def Method.entryCommand? : Method → Option CommandKind
  | .savepoint => some .savepoint
  | .releaseSavepoint => some .releaseSavepoint
  | .rollback => some .rollback
  | _ => none

namespace Statement

/-- The statement after a call of a method that is given texts. -/
def edit (statement : Statement) (method : Method) (texts : List Text) : Statement :=
  match statement with
  | select frame body queries operations =>
      select frame (body.edit method texts) queries operations
  | insert frame body queries source => insert frame (body.edit method texts) queries source
  | update frame body queries => update frame (body.edit method texts) queries
  | delete frame body queries => delete frame (body.edit method texts) queries
  | values frame body => values frame (body.edit method texts)
  | createTable frame body => createTable frame (body.edit method texts)
  | dropTable frame body => dropTable frame (body.edit method texts)
  | dropIndex frame body => dropIndex frame (body.edit method texts)
  | createIndex frame body => createIndex frame (body.edit method texts)
  | alterTable frame body => alterTable frame (body.edit method texts)
  | transaction frame body entries =>
      match method.entryCommand? with
      | some kind =>
          transaction frame body (entries ++ [.command { kind, argument := newValue texts }])
      | none => transaction frame (body.edit method texts) entries

end Statement
end SqlText
