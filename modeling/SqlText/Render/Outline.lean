import SqlText.Render.SetOperations
import SqlText.Statement.Basic
import SqlText.Text.Parenthesized

/-!
# The order of a statement's clauses

The outline of a statement lists its parts in the order in which they are written, whatever order
they were given in, each with the clause it belongs to. The texts of the statements inside it are
taken as given. A part that belongs to a clause is written with the raw text around the clause,
and not at all when the dialect lacks the clause; a part that belongs to none is written as it is.
-/

set_option autoImplicit false

namespace SqlText

/-- A part in its place: at a clause, or free of one. -/
inductive Segment where
  | clause (clause : Clause) (part : Part)
  | free (part : Part)

namespace Segment

/-- The part that is in the place. -/
def part : Segment → Part
  | .clause _ part => part
  | .free part => part

/-- The text of a segment in a statement of the kind. -/
def render (layout : Layout) (kind : Kind) (frame : Frame) : Segment → Text
  | .clause place part =>
      if frame.enables kind place then
        layout.wrapped (frame.before.get place) (part.render layout) (frame.after.get place)
      else []
  | .free part => part.render layout

end Segment

/-- The statement's own raw text and its segments. -/
def Frame.render (layout : Layout) (kind : Kind) (frame : Frame) (segments : List Segment) :
    Text :=
  layout.rawText frame.raw ++ segments.flatMap (Segment.render layout kind frame)

/-! ## The outlines -/

/-- The clauses of a SELECT up to its set operations. -/
def SelectBody.outline (body : SelectBody) (queries : List (Text × Text)) : List Segment :=
  [.clause .withClause (.queries queries),
   .clause .select (.list "SELECT".toList body.columns),
   .clause .fromClause (.list "FROM".toList body.tables),
   .clause .join (.lines body.joins),
   .clause .whereClause (.conditions "WHERE".toList body.conditions),
   .clause .groupBy (.list "GROUP BY".toList body.groups),
   .clause .having (.conditions "HAVING".toList body.groupConditions),
   .clause .window (.list "WINDOW".toList body.windows),
   .clause .orderBy (.list "ORDER BY".toList body.order),
   .clause .limit (.single "LIMIT".toList body.limit),
   .clause .offset (.single "OFFSET".toList body.offset)]

/-- The set operations of a SELECT with the raw text of its frame. -/
def Frame.combination (frame : Frame) : Combination SetOperation where
  keyword := SetOperation.word
  before operation := frame.before.get operation.clause
  after operation := frame.after.get operation.clause

/-- The text of a SELECT: its clauses, combined with the operands where the dialect has set
operations. -/
def SelectBody.render (layout : Layout) (frame : Frame) (body : SelectBody)
    (queries : List (Text × Text)) (operations : List (SetOperation × Text)) : Text :=
  let clauses := frame.render layout .select (body.outline queries)
  if frame.dialect.supports .setOperations then
    frame.combination.render layout SetOperation.all clauses operations
  else clauses

/-- The part of one of the ways to name a target, empty when another way was used. -/
def targetPart {τ : Type} [DecidableEq τ] (word : τ → Text) (target : Option (τ × Text))
    (way : τ) : Part :=
  match target with
  | some (used, text) => .single (word way) (if used = way then text else [])
  | none => .single (word way) []

/-- The clauses of an INSERT. -/
def InsertBody.outline (body : InsertBody) (queries : List (Text × Text)) (source : Text) :
    List Segment :=
  [.clause .withClause (.queries queries),
   .clause .insertInto (targetPart InsertTarget.word body.target .insertInto),
   .clause .insertOr (targetPart InsertTarget.word body.target .insertOr),
   .clause .replaceInto (targetPart InsertTarget.word body.target .replaceInto),
   .clause .overriding (.single "OVERRIDING".toList body.overriding),
   .clause .values (.list "VALUES".toList body.rows),
   .clause .defaultValues (.flag "DEFAULT VALUES".toList body.defaultValues),
   .clause .select (.embedded source),
   .clause .onConflict (.single "ON CONFLICT".toList body.onConflict),
   .clause .returning (.list "RETURNING".toList body.output)]

/-- The clauses of an UPDATE. -/
def UpdateBody.outline (body : UpdateBody) (queries : List (Text × Text)) : List Segment :=
  [.clause .withClause (.queries queries),
   .clause .update (targetPart UpdateTarget.word body.target .update),
   .clause .updateOr (targetPart UpdateTarget.word body.target .updateOr),
   .clause .set (.list "SET".toList body.assignments),
   .clause .fromClause (.list "FROM".toList body.tables),
   .clause .join (.lines body.joins),
   .clause .whereClause (.conditions "WHERE".toList body.conditions),
   .clause .returning (.list "RETURNING".toList body.output)]

/-- The clauses of a DELETE. -/
def DeleteBody.outline (body : DeleteBody) (queries : List (Text × Text)) : List Segment :=
  [.clause .withClause (.queries queries),
   .clause .deleteFrom (.single "DELETE FROM".toList body.table),
   .clause .partition (.enclosed "PARTITION".toList body.partitions),
   .clause .whereClause (.conditions "WHERE".toList body.conditions),
   .clause .orderBy (.list "ORDER BY".toList body.order),
   .clause .limit (.single "LIMIT".toList body.limit),
   .clause .returning (.list "RETURNING".toList body.output)]

/-- The one clause of a list of rows. -/
def ValuesBody.outline (body : ValuesBody) : List Segment :=
  [.clause .values (.list "VALUES".toList body.rows)]

/-- The groups of the parameter list: columns, primary key, constraints and foreign keys. -/
def CreateTableBody.groups (frame : Frame) (body : CreateTableBody) : List ParameterGroup :=
  let group (clause : Clause) (entries : List (List Text)) : ParameterGroup :=
    ⟨frame.before.get clause, entries, frame.after.get clause⟩
  [group .column (body.columns.map fun column => [column]),
   group .primaryKey
    (if body.primaryKey = [] then []
     else [["PRIMARY KEY".toList ++ body.primaryKey.parenthesized]]),
   group .constraint (body.constraints.map fun text => ["CONSTRAINT".toList, text]),
   group .foreignKey
    (body.foreignKeys.map fun text => ["FOREIGN KEY".toList ++ text.parenthesized])]

/-- The table clause of a CREATE TABLE and its parameter list. -/
def CreateTableBody.outline (frame : Frame) (body : CreateTableBody) : List Segment :=
  let keyword :=
    if body.ifNotExists then "CREATE TABLE IF NOT EXISTS".toList else "CREATE TABLE".toList
  [.clause .createTable (.single keyword body.table), .free (.parameters (body.groups frame))]

/-- The one clause of a DROP with the given keyword. It names all targets where the dialect allows
several, else the last one. -/
def DropBody.outline (frame : Frame) (body : DropBody) (clause : Clause) (word : Text) :
    List Segment :=
  let keyword := if body.ifExists then word ++ " IF EXISTS".toList else word
  if frame.dialect.supports .multiTargetDrop then [.clause clause (.list keyword body.names)]
  else [.clause clause (.single keyword (body.names.getLast?.getD []))]

/-- The words of a CREATE INDEX before its table; there are none without a name, a table and a
column. -/
def CreateIndexBody.head (body : CreateIndexBody) : List Text :=
  if body.name = [] ∧ body.table = [] ∧ body.columns = [] then []
  else
    ["CREATE".toList] ++ (if body.unique then ["UNIQUE".toList] else []) ++ ["INDEX".toList] ++
      (if body.concurrently then ["CONCURRENTLY".toList] else []) ++
      (if body.ifNotExists then ["IF".toList, "NOT".toList, "EXISTS".toList] else []) ++
      (if body.name = [] then [] else [body.name])

/-- The words that name the table of an index. -/
def CreateIndexBody.tableWords (body : CreateIndexBody) : List Text :=
  if body.table = [] then []
  else if body.only then ["ON".toList, "ONLY".toList, body.table]
  else ["ON".toList, body.table]

/-- The clauses of a CREATE INDEX. -/
def CreateIndexBody.outline (body : CreateIndexBody) : List Segment :=
  [.clause .createIndex (.words body.head),
   .clause .onClause (.words body.tableWords),
   .clause .usingClause (.single "USING".toList body.method),
   .clause .column (.enclosed [] body.columns),
   .clause .includeClause (.enclosed "INCLUDE".toList body.included),
   .clause .whereClause (.conditions "WHERE".toList body.conditions)]

/-- The clauses of an ALTER TABLE. -/
def AlterTableBody.outline (body : AlterTableBody) : List Segment :=
  [.clause .alterTable (.single "ALTER TABLE".toList body.table),
   .clause .renameTo (.single "RENAME TO".toList body.newName),
   .clause .actions (.actions (body.actions.map fun (action, text) => (action.word, text)))]

/-- A command that a transaction script has at most once, if the dialect offers it. -/
def Frame.commandSegments (layout : Layout) (frame : Frame) (gate : Option Feature)
    (kind : CommandKind) (argument : Option Text) : List Segment :=
  match argument with
  | some argument =>
      if frame.dialect.offers gate then
        [.free (.command (Command.render layout { kind, argument }))]
      else []
  | none => []

/-- The commands of a transaction script: the opening ones, the entries in their order, and the
closing ones. -/
def TransactionBody.outline (layout : Layout) (frame : Frame) (body : TransactionBody)
    (entries : List Text) : List Segment :=
  frame.commandSegments layout (some .beginEnd) .begin body.beginMode ++
    frame.commandSegments layout (some .startTransaction) .startTransaction body.startMode ++
    frame.commandSegments layout (some .setTransaction) .setTransaction body.setMode ++
    entries.map (fun text => .free (.command text)) ++
    frame.commandSegments layout none .commit body.commitArgument ++
    frame.commandSegments layout (some .beginEnd) .finish body.endArgument

end SqlText
