import SqlText.Proofs.Invariant

/-!
# The texts that a statement stores

The body of a statement keeps texts for its clauses. `Statement.stored` tells which for each clause,
said of the fields of the body and not of how they are written. The target of an INSERT or an UPDATE
belongs to the clause of the way in which it was named.

With the raw text, the names of common table expressions, the arguments of commands and the
contents that are the same in every layout, these are all the texts of a statement
(`Statement.texts`). The texts of the statements inside it are theirs.
-/

set_option autoImplicit false

namespace SqlText

/-- A single value, unless it is empty. -/
def Text.unlessEmpty (value : Text) : List Text := if value = [] then [] else [value]

theorem Text.mem_unlessEmpty {value : Text} (visible : value ≠ []) : value ∈ value.unlessEmpty := by
  rw [unlessEmpty, if_neg visible]
  exact List.mem_singleton_self value

/-- The text of a target that was named in the given way. -/
def targetTexts {τ : Type} [DecidableEq τ] (target : Option (τ × Text)) (way : τ) : List Text :=
  match target with
  | some (used, text) => if used = way then [text] else []
  | none => []

/-! ## Bodies -/

/-- What a SELECT keeps for a clause. -/
def SelectBody.stored (body : SelectBody) : Clause → List Text
  | .select => body.columns
  | .fromClause => body.tables
  | .join => body.joins
  | .whereClause => body.conditions.map Prod.snd
  | .groupBy => body.groups
  | .having => body.groupConditions.map Prod.snd
  | .window => body.windows
  | .orderBy => body.order
  | .limit => body.limit.unlessEmpty
  | .offset => body.offset.unlessEmpty
  | _ => []

/-- What an INSERT keeps for a clause. -/
def InsertBody.stored (body : InsertBody) : Clause → List Text
  | .insertInto => targetTexts body.target .insertInto
  | .insertOr => targetTexts body.target .insertOr
  | .replaceInto => targetTexts body.target .replaceInto
  | .overriding => body.overriding.unlessEmpty
  | .values => body.rows
  | .onConflict => body.onConflict.unlessEmpty
  | .returning => body.output
  | _ => []

/-- What an UPDATE keeps for a clause. -/
def UpdateBody.stored (body : UpdateBody) : Clause → List Text
  | .update => targetTexts body.target .update
  | .updateOr => targetTexts body.target .updateOr
  | .set => body.assignments
  | .fromClause => body.tables
  | .join => body.joins
  | .whereClause => body.conditions.map Prod.snd
  | .returning => body.output
  | _ => []

/-- What a DELETE keeps for a clause. -/
def DeleteBody.stored (body : DeleteBody) : Clause → List Text
  | .deleteFrom => body.table.unlessEmpty
  | .partition => body.partitions
  | .whereClause => body.conditions.map Prod.snd
  | .orderBy => body.order
  | .limit => body.limit.unlessEmpty
  | .returning => body.output
  | _ => []

/-- What a list of rows keeps for a clause. -/
def ValuesBody.stored (body : ValuesBody) : Clause → List Text
  | .values => body.rows
  | _ => []

/-- What a CREATE TABLE keeps for a clause. -/
def CreateTableBody.stored (body : CreateTableBody) : Clause → List Text
  | .createTable => body.table.unlessEmpty
  | .column => body.columns
  | .primaryKey => body.primaryKey.unlessEmpty
  | .constraint => body.constraints
  | .foreignKey => body.foreignKeys
  | _ => []

/-- What a DROP keeps for its one clause. -/
def DropBody.stored (body : DropBody) : Clause → List Text
  | .dropTable | .dropIndex => body.names
  | _ => []

/-- What a CREATE INDEX keeps for a clause. -/
def CreateIndexBody.stored (body : CreateIndexBody) : Clause → List Text
  | .createIndex => body.name.unlessEmpty
  | .onClause => body.table.unlessEmpty
  | .usingClause => body.method.unlessEmpty
  | .column => body.columns
  | .includeClause => body.included
  | .whereClause => body.conditions.map Prod.snd
  | _ => []

/-- What an ALTER TABLE keeps for a clause. -/
def AlterTableBody.stored (body : AlterTableBody) : Clause → List Text
  | .alterTable => body.table.unlessEmpty
  | .renameTo => body.newName.unlessEmpty
  | .actions => body.actions.map Prod.snd
  | _ => []

/-- The arguments of the commands that a transaction script has at most once. -/
def TransactionBody.texts (body : TransactionBody) : List Text :=
  [body.beginMode, body.startMode, body.setMode, body.commitArgument,
    body.endArgument].filterMap id

/-- All raw text. -/
def Frame.texts (frame : Frame) : List Text :=
  frame.raw ++ (frame.before ++ frame.after).flatMap Prod.snd

/-- The texts of an operand that is no statement. -/
def Operand.texts : Operand Statement → List Text
  | .statement _ => []
  | .command order => [order.argument]
  | .fixed content => [content.shown]

/-! ## Statements -/

namespace Statement

/-- What the body of a statement keeps for a clause. -/
def stored : Statement → Clause → List Text
  | select _ body _ _ => body.stored
  | insert _ body _ _ => body.stored
  | update _ body _ => body.stored
  | delete _ body _ => body.stored
  | values _ body => body.stored
  | createTable _ body => body.stored
  | dropTable _ body => body.stored
  | dropIndex _ body => body.stored
  | createIndex _ body => body.stored
  | alterTable _ body => body.stored
  | transaction .. => fun _ => []

/-- The arguments of the single commands of a statement. -/
def commandArguments : Statement → List Text
  | transaction _ body _ => body.texts
  | _ => []

/-- All texts that a statement stores itself. -/
def texts (statement : Statement) : List Text :=
  statement.frame.texts ++ statement.kind.clauses.flatMap statement.stored ++
    statement.queries.map Prod.fst ++ statement.commandArguments ++
    statement.operands.flatMap Operand.texts

/-- Every text fits that is stored in a statement or in one inside it, to any depth. -/
abbrev EveryText (fits : Text → Prop) (statement : Statement) : Prop :=
  statement.Everywhere fun other => ∀ text ∈ other.texts, fits text

end Statement

/-! ## What is stored is fragments -/

section Trimmed

theorem Collected.isFragment_of_mem_map {α : Type} {content : α → Text} {items : List α}
    (collected : Collected content items) : ∀ text ∈ items.map content, text.IsFragment := by
  intro text member
  obtain ⟨item, among, rfl⟩ := List.mem_map.mp member
  exact collected.fragments item among

theorem IsValue.isFragment_of_mem_unlessEmpty {value : Text} (trimmed : IsValue value) :
    ∀ text ∈ value.unlessEmpty, text.IsFragment := by
  intro text member
  rw [Text.unlessEmpty] at member
  split at member
  · cases member
  · rename_i visible
    rw [List.mem_singleton.mp member]
    exact trimmed.isFragment visible

theorem isFragment_of_mem_targetTexts {τ : Type} [DecidableEq τ] {target : Option (τ × Text)}
    (fragment : ∀ named ∈ target, named.2.IsFragment) (way : τ) :
    ∀ text ∈ targetTexts target way, text.IsFragment := by
  intro text member
  cases target with
  | none => cases member
  | some named =>
      obtain ⟨used, name⟩ := named
      rw [targetTexts] at member
      split at member
      · rw [List.mem_singleton.mp member]
        exact fragment _ rfl
      · cases member

variable {clause : Clause}

theorem SelectBody.IsValid.stored {body : SelectBody} (valid : body.IsValid) :
    ∀ text ∈ body.stored clause, text.IsFragment := by
  unfold SelectBody.stored
  split
  · exact valid.columns.fragments
  · exact valid.tables.fragments
  · exact valid.joins.fragments
  · exact valid.conditions.isFragment_of_mem_map
  · exact valid.groups.fragments
  · exact valid.groupConditions.isFragment_of_mem_map
  · exact valid.windows.fragments
  · exact valid.order.fragments
  · exact valid.limit.isFragment_of_mem_unlessEmpty
  · exact valid.offset.isFragment_of_mem_unlessEmpty
  · exact nofun

theorem InsertBody.IsValid.stored {body : InsertBody} (valid : body.IsValid) :
    ∀ text ∈ body.stored clause, text.IsFragment := by
  unfold InsertBody.stored
  split
  · exact isFragment_of_mem_targetTexts valid.target _
  · exact isFragment_of_mem_targetTexts valid.target _
  · exact isFragment_of_mem_targetTexts valid.target _
  · exact valid.overriding.isFragment_of_mem_unlessEmpty
  · exact valid.rows.fragments
  · exact valid.onConflict.isFragment_of_mem_unlessEmpty
  · exact valid.output.fragments
  · exact nofun

theorem UpdateBody.IsValid.stored {body : UpdateBody} (valid : body.IsValid) :
    ∀ text ∈ body.stored clause, text.IsFragment := by
  unfold UpdateBody.stored
  split
  · exact isFragment_of_mem_targetTexts valid.target _
  · exact isFragment_of_mem_targetTexts valid.target _
  · exact valid.assignments.fragments
  · exact valid.tables.fragments
  · exact valid.joins.fragments
  · exact valid.conditions.isFragment_of_mem_map
  · exact valid.output.fragments
  · exact nofun

theorem DeleteBody.IsValid.stored {body : DeleteBody} (valid : body.IsValid) :
    ∀ text ∈ body.stored clause, text.IsFragment := by
  unfold DeleteBody.stored
  split
  · exact valid.table.isFragment_of_mem_unlessEmpty
  · exact valid.partitions.fragments
  · exact valid.conditions.isFragment_of_mem_map
  · exact valid.order.fragments
  · exact valid.limit.isFragment_of_mem_unlessEmpty
  · exact valid.output.fragments
  · exact nofun

theorem ValuesBody.IsValid.stored {body : ValuesBody} (valid : body.IsValid) :
    ∀ text ∈ body.stored clause, text.IsFragment := by
  unfold ValuesBody.stored
  split
  · exact valid.rows.fragments
  · exact nofun

theorem CreateTableBody.IsValid.stored {body : CreateTableBody} (valid : body.IsValid) :
    ∀ text ∈ body.stored clause, text.IsFragment := by
  unfold CreateTableBody.stored
  split
  · exact valid.table.isFragment_of_mem_unlessEmpty
  · exact valid.columns.fragments
  · exact valid.primaryKey.isFragment_of_mem_unlessEmpty
  · exact valid.constraints.fragments
  · exact valid.foreignKeys.fragments
  · exact nofun

theorem DropBody.IsValid.stored {body : DropBody} (valid : body.IsValid) :
    ∀ text ∈ body.stored clause, text.IsFragment := by
  unfold DropBody.stored
  split
  · exact valid.names.fragments
  · exact valid.names.fragments
  · exact nofun

theorem CreateIndexBody.IsValid.stored {body : CreateIndexBody} (valid : body.IsValid) :
    ∀ text ∈ body.stored clause, text.IsFragment := by
  unfold CreateIndexBody.stored
  split
  · exact valid.name.isFragment_of_mem_unlessEmpty
  · exact valid.table.isFragment_of_mem_unlessEmpty
  · exact valid.method.isFragment_of_mem_unlessEmpty
  · exact valid.columns.fragments
  · exact valid.included.fragments
  · exact valid.conditions.isFragment_of_mem_map
  · exact nofun

theorem AlterTableBody.IsValid.stored {body : AlterTableBody} (valid : body.IsValid) :
    ∀ text ∈ body.stored clause, text.IsFragment := by
  unfold AlterTableBody.stored
  split
  · exact valid.table.isFragment_of_mem_unlessEmpty
  · exact valid.newName.isFragment_of_mem_unlessEmpty
  · exact valid.actions.isFragment_of_mem_map
  · exact nofun

/-- What a valid statement keeps for a clause is fragments. -/
theorem Statement.IsValid.stored {statement : Statement} (valid : statement.IsValid)
    (clause : Clause) : ∀ text ∈ statement.stored clause, text.IsFragment := by
  have body := valid.body
  cases statement with
  | select => exact SelectBody.IsValid.stored body
  | insert => exact InsertBody.IsValid.stored body
  | update => exact UpdateBody.IsValid.stored body
  | delete => exact DeleteBody.IsValid.stored body
  | values => exact ValuesBody.IsValid.stored body
  | createTable => exact CreateTableBody.IsValid.stored body
  | dropTable => exact DropBody.IsValid.stored body
  | dropIndex => exact DropBody.IsValid.stored body
  | createIndex => exact CreateIndexBody.IsValid.stored body
  | alterTable => exact AlterTableBody.IsValid.stored body
  | transaction => exact nofun

end Trimmed

/-! ## Where the texts are found -/

section Finding

variable {fits : Text → Prop}

theorem Frame.fits_raw {frame : Frame} (all : ∀ text ∈ frame.texts, fits text) :
    ∀ text ∈ frame.raw, fits text :=
  fun text member => all text (List.mem_append_left _ member)

theorem Frame.fits_before {frame : Frame} (all : ∀ text ∈ frame.texts, fits text)
    (clause : Clause) : ∀ text ∈ frame.before.get clause, fits text := by
  intro text member
  obtain ⟨texts, entry, among⟩ := RawText.exists_entry_of_mem_get member
  refine all text (List.mem_append_right _ (List.mem_flatMap.mpr ⟨(clause, texts), ?_, among⟩))
  exact List.mem_append_left _ entry

theorem Frame.fits_after {frame : Frame} (all : ∀ text ∈ frame.texts, fits text)
    (clause : Clause) : ∀ text ∈ frame.after.get clause, fits text := by
  intro text member
  obtain ⟨texts, entry, among⟩ := RawText.exists_entry_of_mem_get member
  refine all text (List.mem_append_right _ (List.mem_flatMap.mpr ⟨(clause, texts), ?_, among⟩))
  exact List.mem_append_right _ entry

variable {statement : Statement} (all : ∀ text ∈ statement.texts, fits text)
include all

theorem Statement.fits_frame : ∀ text ∈ statement.frame.texts, fits text := by
  intro text member
  exact all text (by simp [texts, member])

theorem Statement.fits_stored :
    ∀ clause ∈ statement.kind.clauses, ∀ text ∈ statement.stored clause, fits text := by
  intro clause known text member
  refine all text ?_
  simp only [texts, List.mem_append, List.mem_flatMap]
  exact .inl (.inl (.inl (.inr ⟨clause, known, member⟩)))

theorem Statement.fits_name : ∀ query ∈ statement.queries, fits query.1 := by
  intro query member
  refine all query.1 ?_
  simp only [texts, List.mem_append]
  exact .inl (.inl (.inr (List.mem_map_of_mem member)))

theorem Statement.fits_commandArguments : ∀ text ∈ statement.commandArguments, fits text := by
  intro text member
  exact all text (by simp [texts, member])

theorem Statement.fits_operand :
    ∀ operand ∈ statement.operands, ∀ text ∈ operand.texts, fits text := by
  intro operand among text member
  refine all text ?_
  simp only [texts, List.mem_append, List.mem_flatMap]
  exact .inr ⟨operand, among, member⟩

end Finding
end SqlText
