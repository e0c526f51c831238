import SqlText.Proofs.Invariant

/-!
# The slots of a statement

What calls have given to a statement lies in slots that do not depend on each other. A clause has
one, with what is called for it in whatever way: the joins of the four kinds are one slot, so are
the three ways to name the target of an INSERT, and so are the set operations. There are slots for
the raw text at the start, before and after every clause, for the marks of an index, and for the
single commands and the entries of a transaction script.

`Statement.content` tells what a statement has in a slot, `Kind.slot?` which slot a call writes to,
and `Content.write` what it leaves there. It is told by the content that was there and by what was
given, and by nothing else in the statement.
-/

set_option autoImplicit false

namespace SqlText

/-! ## Slots and what writes to them -/

/-- A place of a statement that calls write to. -/
inductive Slot where
  /-- The raw text at the start. -/
  | raw
  | before (clause : Clause)
  | after (clause : Clause)
  | clause (clause : Clause)
  | unique
  | concurrently
  | only
  /-- A command that a transaction script has at most once. -/
  | command (kind : CommandKind)
  /-- The entries of a transaction script. -/
  | entries
deriving DecidableEq, Repr

/-- The slots that hold no raw text. -/
def Slot.IsOfBody : Slot → Prop
  | raw | before _ | after _ => False
  | _ => True

/-- The slot of a clause. Clauses that replace each other or are collected together share one, and
a DROP has one for its names, whatever it drops. -/
def Clause.slot : Clause → Slot
  | .insertOr | .replaceInto => .clause .insertInto
  | .updateOr => .clause .update
  | .intersect | .except => .clause .union
  | .dropIndex => .clause .dropTable
  | clause => .clause clause

namespace Method

/-- The clause that a method gives something to. -/
def clause? : Method → Option Clause
  | withQuery => some .withClause
  | select => some .select
  | fromTables => some .fromClause
  | crossJoin | innerJoin | leftJoin | rightJoin => some .join
  | whereAnd | whereOr => some .whereClause
  | groupBy => some .groupBy
  | havingAnd | havingOr => some .having
  | window => some .window
  | orderBy => some .orderBy
  | limit => some .limit
  | offset => some .offset
  | union => some .union
  | intersect => some .intersect
  | except => some .except
  | insertInto => some .insertInto
  | insertOr => some .insertOr
  | replaceInto => some .replaceInto
  | overriding => some .overriding
  | values | row => some .values
  | defaultValues => some .defaultValues
  | onConflict => some .onConflict
  | returning => some .returning
  | update => some .update
  | updateOr => some .updateOr
  | set => some .set
  | deleteFrom => some .deleteFrom
  | partition => some .partition
  | createTable | createTableIfNotExists => some .createTable
  | column => some .column
  | primaryKey => some .primaryKey
  | constraint => some .constraint
  | foreignKey => some .foreignKey
  | dropTable | dropTableIfExists => some .dropTable
  | dropIndex | dropIndexIfExists => some .dropIndex
  | createIndex | createIndexIfNotExists => some .createIndex
  | onTable => some .onClause
  | usingMethod => some .usingClause
  | includeColumns => some .includeClause
  | alterTable => some .alterTable
  | renameTo => some .renameTo
  | add | drop | alter | rename => some .actions
  | _ => none

/-- The slot of a statement that is made of clauses that a method writes to. -/
def slot? : Method → Option Slot
  | unique => some .unique
  | concurrently => some .concurrently
  | only => some .only
  | method => method.clause?.map Clause.slot

/-- The slot of a transaction script that a method writes to. -/
def scriptSlot? : Method → Option Slot
  | begin => some (.command .begin)
  | startTransaction => some (.command .startTransaction)
  | setTransaction => some (.command .setTransaction)
  | commit => some (.command .commit)
  | finish => some (.command .finish)
  | savepoint | releaseSavepoint | rollback => some .entries
  | select | insert | update | delete | createTable | dropTable | alterTable => some .entries
  | _ => none

end Method

namespace Kind

/-- The clause of a statement of the kind that an argument names. -/
def place? (kind : Kind) (argument : Argument) : Option Clause :=
  match argument with
  | .member (.clause other clause) => if other = kind then some clause else none
  | .member _ => none
  | argument => kind.clause? argument.shown

/-- The slot of the body that a method of a statement of the kind writes to. -/
def bodySlot? (kind : Kind) (method : Method) : Option Slot :=
  if kind = .transaction then method.scriptSlot? else method.slot?

/-- The slot that a call on a statement of the kind writes to. -/
def slot? (kind : Kind) (method : Method) (arguments : List Argument) : Option Slot :=
  match method with
  | .raw => some .raw
  | .rawBefore => (arguments.head?.bind kind.place?).map .before
  | .rawAfter => (arguments.head?.bind kind.place?).map .after
  | method => kind.bodySlot? method

end Kind

/-! ## What is given -/

namespace Method

/-- The items of a list after a call that is given texts. -/
def pushTo (method : Method) (items texts : List Text) : List Text :=
  match method with
  | crossJoin => pushJoins items "CROSS JOIN".toList texts
  | innerJoin => pushJoins items "INNER JOIN".toList texts
  | leftJoin => pushJoins items "LEFT JOIN".toList texts
  | rightJoin => pushJoins items "RIGHT JOIN".toList texts
  | row => pushRows items texts
  | _ => pushAll items texts

/-- How the conditions of a method join those before them. -/
def operator : Method → Operator
  | whereOr | havingOr => .or
  | _ => .and

/-- The change to a table that a method stands for. -/
def action? : Method → Option AlterAction
  | add => some .add
  | drop => some .drop
  | alter => some .alter
  | rename => some .rename
  | _ => none

/-- The way in which a method names the target of an INSERT. -/
def insertWay? : Method → Option InsertTarget
  | insertInto => some .insertInto
  | insertOr => some .insertOr
  | replaceInto => some .replaceInto
  | _ => none

/-- The way in which a method names the table of an UPDATE. -/
def updateWay? : Method → Option UpdateTarget
  | update => some .update
  | updateOr => some .updateOr
  | _ => none

/-- Whether a method asks for a condition on what exists. -/
def asksExistence : Method → Bool
  | createTableIfNotExists | createIndexIfNotExists => true
  | dropTableIfExists | dropIndexIfExists => true
  | _ => false

end Method

/-- The common table expression that the arguments amount to. -/
def queryGiven? : List Argument → Option (Text × Operand Statement)
  | [name, query] => query.operand?.map fun operand => (name.fragment.trim, operand)
  | _ => none

/-- The set operation that a call amounts to. -/
def operationGiven? (method : Method) : List Argument → Option (SetOperation × Operand Statement)
  | [argument] => method.operation?.bind fun operation => argument.operand?.map (operation, ·)
  | _ => none

/-- The statement that the arguments amount to. -/
def statementGiven? : List Argument → Option Statement
  | [.statement inner] => some inner
  | _ => none

/-- The entry of a transaction script that a call amounts to. -/
def entryGiven? (method : Method) (arguments : List Argument) : Option (Operand Statement) :=
  match method.entryCommand?, method.entryKind? with
  | some kind, _ => some (.command { kind, argument := newValue (fragments arguments) })
  | none, some _ => (statementGiven? arguments).map .statement
  | none, none => none

/-! ## Contents -/

/-- What a slot can have in it. -/
inductive Content where
  /-- Nothing, in a slot that a statement of the kind does not have. -/
  | none
  | texts (items : List Text)
  | raw (texts : List Text)
  | conditions (conditions : List Condition)
  | actions (actions : List (AlterAction × Text))
  | queries (queries : List (Text × Operand Statement))
  | operations (operations : List (SetOperation × Operand Statement))
  | entries (entries : List (Operand Statement))
  /-- The names of a DROP, and whether they need not exist. -/
  | names (names : List Text) (ifExists : Bool)
  | value (value : Text)
  /-- A name that is created, and whether it may exist. -/
  | created (name : Text) (ifNotExists : Bool)
  | insertTarget (target : Option (InsertTarget × Text))
  | updateTarget (target : Option (UpdateTarget × Text))
  | source (source : Option Statement)
  /-- A single command of a transaction script by its argument. -/
  | command (argument : Option Text)
  | flag (isSet : Bool)

/-- The content after a call that writes to its slot. -/
def Content.write (method : Method) (arguments : List Argument) : Content → Content
  | none => none
  | texts items => texts (method.pushTo items (fragments arguments))
  | raw given => raw (given ++ givenTexts (fragments arguments.tail))
  | conditions given =>
      conditions (pushConditions given method.operator (fragments arguments))
  | actions given =>
      match method.action? with
      | some action => actions (pushAction given action (fragments arguments))
      | Option.none => actions given
  | queries given => queries (given ++ (queryGiven? arguments).toList)
  | operations given => operations (given ++ (operationGiven? method arguments).toList)
  | entries given => entries (given ++ (entryGiven? method arguments).toList)
  | names given ifExists =>
      names (pushAll given (fragments arguments)) (method.asksExistence || ifExists)
  | value _ => value (newValue (fragments arguments))
  | created _ _ => created (newValue (fragments arguments)) method.asksExistence
  | insertTarget _ => insertTarget (method.insertWay?.bind (newTarget · (fragments arguments)))
  | updateTarget _ => updateTarget (method.updateWay?.bind (newTarget · (fragments arguments)))
  | source _ => source (statementGiven? arguments)
  | command _ => command (some (newValue (fragments arguments)))
  | flag _ => flag true

/-! ## The contents of bodies -/

/-- What a SELECT has in a slot, its queries and set operations apart. -/
def SelectBody.content (body : SelectBody) : Slot → Content
  | .clause .select => .texts body.columns
  | .clause .fromClause => .texts body.tables
  | .clause .join => .texts body.joins
  | .clause .whereClause => .conditions body.conditions
  | .clause .groupBy => .texts body.groups
  | .clause .having => .conditions body.groupConditions
  | .clause .window => .texts body.windows
  | .clause .orderBy => .texts body.order
  | .clause .limit => .value body.limit
  | .clause .offset => .value body.offset
  | _ => .none

/-- What an INSERT has in a slot, its queries and its source apart. -/
def InsertBody.content (body : InsertBody) : Slot → Content
  | .clause .insertInto => .insertTarget body.target
  | .clause .overriding => .value body.overriding
  | .clause .values => .texts body.rows
  | .clause .defaultValues => .flag body.defaultValues
  | .clause .onConflict => .value body.onConflict
  | .clause .returning => .texts body.output
  | _ => .none

/-- What an UPDATE has in a slot, its queries apart. -/
def UpdateBody.content (body : UpdateBody) : Slot → Content
  | .clause .update => .updateTarget body.target
  | .clause .set => .texts body.assignments
  | .clause .fromClause => .texts body.tables
  | .clause .join => .texts body.joins
  | .clause .whereClause => .conditions body.conditions
  | .clause .returning => .texts body.output
  | _ => .none

/-- What a DELETE has in a slot, its queries apart. -/
def DeleteBody.content (body : DeleteBody) : Slot → Content
  | .clause .deleteFrom => .value body.table
  | .clause .partition => .texts body.partitions
  | .clause .whereClause => .conditions body.conditions
  | .clause .orderBy => .texts body.order
  | .clause .limit => .value body.limit
  | .clause .returning => .texts body.output
  | _ => .none

/-- What a list of rows has in a slot. -/
def ValuesBody.content (body : ValuesBody) : Slot → Content
  | .clause .values => .texts body.rows
  | _ => .none

/-- What a CREATE TABLE has in a slot. -/
def CreateTableBody.content (body : CreateTableBody) : Slot → Content
  | .clause .createTable => .created body.table body.ifNotExists
  | .clause .column => .texts body.columns
  | .clause .primaryKey => .value body.primaryKey
  | .clause .constraint => .texts body.constraints
  | .clause .foreignKey => .texts body.foreignKeys
  | _ => .none

/-- What a DROP has in a slot. -/
def DropBody.content (body : DropBody) : Slot → Content
  | .clause .dropTable => .names body.names body.ifExists
  | _ => .none

/-- What a CREATE INDEX has in a slot. -/
def CreateIndexBody.content (body : CreateIndexBody) : Slot → Content
  | .clause .createIndex => .created body.name body.ifNotExists
  | .unique => .flag body.unique
  | .concurrently => .flag body.concurrently
  | .clause .onClause => .value body.table
  | .only => .flag body.only
  | .clause .usingClause => .value body.method
  | .clause .column => .texts body.columns
  | .clause .includeClause => .texts body.included
  | .clause .whereClause => .conditions body.conditions
  | _ => .none

/-- What an ALTER TABLE has in a slot. -/
def AlterTableBody.content (body : AlterTableBody) : Slot → Content
  | .clause .alterTable => .value body.table
  | .clause .renameTo => .value body.newName
  | .clause .actions => .actions body.actions
  | _ => .none

/-- The single commands of a transaction script by their slots. -/
def TransactionBody.content (body : TransactionBody) : Slot → Content
  | .command .begin => .command body.beginMode
  | .command .startTransaction => .command body.startMode
  | .command .setTransaction => .command body.setMode
  | .command .commit => .command body.commitArgument
  | .command .finish => .command body.endArgument
  | _ => .none

/-! ## The contents of statements -/

namespace Statement

/-- What a statement has in a slot of its body. -/
def bodyContent (statement : Statement) (slot : Slot) : Content :=
  match statement with
  | select _ body queries operations =>
      if slot = .clause .withClause then .queries queries
      else if slot = .clause .union then .operations operations
      else body.content slot
  | insert _ body queries source =>
      if slot = .clause .withClause then .queries queries
      else if slot = .clause .select then .source source
      else body.content slot
  | update _ body queries =>
      if slot = .clause .withClause then .queries queries else body.content slot
  | delete _ body queries =>
      if slot = .clause .withClause then .queries queries else body.content slot
  | values _ body => body.content slot
  | createTable _ body => body.content slot
  | dropTable _ body => body.content slot
  | dropIndex _ body => body.content slot
  | createIndex _ body => body.content slot
  | alterTable _ body => body.content slot
  | transaction _ body entries =>
      if slot = .entries then .entries entries else body.content slot

/-- What a statement has in a slot. -/
def content (statement : Statement) : Slot → Content
  | .raw => .texts statement.frame.raw
  | .before clause => .raw (statement.frame.before.get clause)
  | .after clause => .raw (statement.frame.after.get clause)
  | slot => statement.bodyContent slot

end Statement
end SqlText
