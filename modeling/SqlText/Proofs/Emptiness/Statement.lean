import SqlText.Proofs.Emptiness.Outline
import SqlText.Proofs.Transactions

/-!
# Statements without text

A statement is rendered as nothing exactly if it is blank
(`Statement.Reachable.render_eq_nil_iff_isBlank`). So the layouts with blank spaces and line breaks
agree on which statements these are, although they agree on little else.

Where the segments of a statement tell one after another whether its clauses are silent, nothing
remains to be shown. Three kinds of statements do not write a segment for a clause. A CREATE TABLE
has one parameter list for four clauses. A CREATE INDEX has the words before its table if there is a
name, a table or a column, and the latter two are written at clauses of their own. A SELECT has its
set operations behind everything else, and the blank operands among them leave no trace.
-/

set_option autoImplicit false

namespace SqlText

open Text

/-! ## Clauses all together -/

namespace Statement

variable {statement : Statement} {blank : Operand Statement → Prop} {layout : Layout}

/-- There is nothing in a statement but what is blank: no raw text at its start, and nothing at its
clauses. -/
structure IsSilent (blank : Operand Statement → Prop) (statement : Statement) : Prop where
  raw : statement.frame.raw = []
  clauses : ∀ clause ∈ statement.kind.clauses, statement.IsSilentAt blank clause

/-- A statement is written as blank characters if it is silent, where its segments together tell
whether its clauses are. -/
theorem IsValid.allBlank_render_iff (valid : statement.IsValid) {segments : List Segment}
    (told : AllBlank (segments.flatMap (Segment.render layout statement.kind statement.frame)) ↔
      ∀ clause ∈ statement.kind.clauses, statement.IsSilentAt blank clause) :
    AllBlank (statement.frame.render layout statement.kind segments) ↔
      statement.IsSilent blank := by
  rw [Frame.render, allBlank_append_iff, layout.allBlank_rawText_iff valid.frame.raw.fragments,
    told]
  exact ⟨fun both => ⟨both.1, both.2⟩, fun silent => ⟨silent.raw, silent.clauses⟩⟩

theorem IsValid.allBlank_outline_iff (valid : statement.IsValid) {segments : List Segment}
    (plain : statement.kind.plainClauses = statement.kind.clauses)
    (told : TellsOutline layout blank statement segments) :
    AllBlank (statement.frame.render layout statement.kind segments) ↔
      statement.IsSilent blank := by
  refine valid.allBlank_render_iff ?_
  rw [allBlank_flatMap_iff_of_tells told, plain]

/-- The parameter list of a CREATE TABLE tells whether its four clauses are silent. -/
theorem allBlank_groups_iff {frame : Frame} {body : CreateTableBody}
    (valid : (createTable frame body).IsValid) :
    AllBlank ((Part.parameters (body.groups frame)).render layout) ↔
      ∀ clause ∈ [Clause.column, .primaryKey, .constraint, .foreignKey],
        (createTable frame body).IsSilentAt blank clause := by
  have group (clause : Clause) {entries : List (List Text)}
      (ungated : frame.enables .createTable clause = true)
      (textsOnly : (createTable frame body).operandsAt clause = [])
      (other : clause ≠ .defaultValues)
      (same : entries = [] ↔ (createTable frame body).stored clause = []) :
      frame.before.get clause = [] ∧ entries = [] ∧ frame.after.get clause = [] ↔
        (createTable frame body).IsSilentAt blank clause := by
    rw [IsSilentAt, isVacantAt_iff_stored textsOnly other, same]
    exact ⟨fun all _ => all, fun all => all ungated⟩
  have key : (if body.primaryKey = [] then []
      else [["PRIMARY KEY".toList ++ body.primaryKey.parenthesized]]) = [] ↔
      body.primaryKey.unlessEmpty = [] := by
    rw [unlessEmpty]
    split
    · exact iff_of_true rfl rfl
    · exact iff_of_false (List.cons_ne_nil _ _) (List.cons_ne_nil _ _)
  have visible : ∀ group ∈ body.groups frame, group.IsVisible :=
    CreateTableBody.isVisible_groups valid.frame valid.body
  rw [Part.allBlank_parameters_iff layout visible]
  simp only [CreateTableBody.groups, List.forall_mem_cons]
  refine and_congr (group .column rfl rfl (by decide) List.map_eq_nil_iff) ?_
  refine and_congr (group .primaryKey rfl rfl (by decide) key) ?_
  refine and_congr (group .constraint rfl rfl (by decide) List.map_eq_nil_iff) ?_
  refine and_congr (group .foreignKey rfl rfl (by decide) List.map_eq_nil_iff) ?_
  exact iff_of_true (List.forall_mem_nil _) (List.forall_mem_nil _)

/-- A CREATE TABLE writes the four clauses of its parameter list as one part. -/
theorem allBlank_createTable_iff {frame : Frame} {body : CreateTableBody}
    (valid : (createTable frame body).IsValid) :
    AllBlank ((createTable frame body).written layout) ↔
      (createTable frame body).IsSilent blank := by
  have bodyValid : body.IsValid := valid.body
  have keyword : IsFragment (if body.ifNotExists then "CREATE TABLE IF NOT EXISTS".toList
      else "CREATE TABLE".toList) := by
    split <;> exact isFragment_word (by decide)
  have table : (createTable frame body).TellsBlank layout blank .createTable _ :=
    valid.tells_stored rfl (by decide) (Part.allBlank_single_iff layout keyword bodyValid.table)
  rw [written]
  refine valid.allBlank_render_iff ?_
  rw [CreateTableBody.outline, List.flatMap_cons, List.flatMap_singleton, allBlank_append_iff]
  show _ ↔ ∀ clause ∈ [Clause.createTable, .column, .primaryKey, .constraint, .foreignKey], _
  rw [List.forall_mem_cons]
  exact and_congr table (allBlank_groups_iff valid)

/-- A CREATE INDEX has words before its table if it has a name, a table or a column. Since a table
and a column are written at clauses of their own, only the name matters there. -/
theorem allBlank_createIndex_iff {frame : Frame} {body : CreateIndexBody}
    (valid : (createIndex frame body).IsValid) :
    AllBlank ((createIndex frame body).written layout) ↔
      (createIndex frame body).IsSilent blank := by
  have bodyValid : body.IsValid := valid.body
  have words := (Part.allBlank_words_iff layout bodyValid.isFragment_of_mem_head).trans
    body.head_eq_nil_iff
  have head : AllBlank ((Segment.clause .createIndex (.words body.head)).render layout .createIndex
      frame) ↔ _ := Segment.allBlank_clause_iff valid.frame layout words
  have shape : body.outline = .clause .createIndex (.words body.head) :: body.outline.tail := rfl
  rw [written]
  refine valid.allBlank_render_iff ?_
  rw [shape, List.flatMap_cons, allBlank_append_iff,
    allBlank_flatMap_iff_of_tells (tells_createIndex_tail valid)]
  show _ ↔ ∀ clause ∈ Clause.createIndex :: Kind.createIndex.clauses.tail, _
  rw [List.forall_mem_cons]
  refine and_congr_left fun rest => head.trans ?_
  -- Both clauses are there under every dialect.
  have table := (rest .onClause (by decide) rfl).2.1.stored
  have columns := (rest .column (by decide) rfl).2.1.stored
  have stored : (createIndex frame body).IsVacantAt blank .createIndex ↔
      body.name.unlessEmpty = [] := isVacantAt_iff_stored rfl (by decide)
  have vacant : (createIndex frame body).IsVacantAt blank .createIndex ↔
      body.name = [] ∧ body.table = [] ∧ body.columns = [] := by
    rw [stored, unlessEmpty_eq_nil_iff]
    exact ⟨fun name => ⟨name, unlessEmpty_eq_nil_iff.mp table, columns⟩, And.left⟩
  rw [IsSilentAt, vacant]
  exact Iff.rfl

/-- At the clause of a kind of set operation there are its operands. -/
theorem isSilentAt_operation_iff {frame : Frame} {body : SelectBody}
    {queries : List (Text × Operand Statement)}
    {operations : List (SetOperation × Operand Statement)} (operation : SetOperation) :
    (select frame body queries operations).IsSilentAt blank operation.clause ↔
      (frame.dialect.supports .setOperations = true → frame.combination.before operation = [] ∧
        (∀ entry ∈ operations, entry.1 = operation → blank entry.2) ∧
          frame.combination.after operation = []) := by
  have stored : (select frame body queries operations).stored operation.clause = [] := by
    cases operation <;> rfl
  have other : operation.clause ≠ .defaultValues := by cases operation <;> decide
  have operands : (select frame body queries operations).operandsAt operation.clause =
      (operations.filter (·.1 = operation)).map Prod.snd := by
    cases operation <;> rfl
  have gate : frame.enables .select operation.clause = frame.dialect.supports .setOperations := by
    cases operation <;> rfl
  have vacant : (select frame body queries operations).IsVacantAt blank operation.clause ↔
      ∀ entry ∈ operations, entry.1 = operation → blank entry.2 := by
    constructor
    · intro vacant entry member same
      refine vacant.inside entry.2 ?_
      rw [operands]
      exact List.mem_map_of_mem (List.mem_filter.mpr ⟨member, decide_eq_true same⟩)
    · intro blanks
      refine ⟨stored, fun same => absurd same other, fun operand member => ?_⟩
      rw [operands] at member
      obtain ⟨entry, among, rfl⟩ := List.mem_map.mp member
      obtain ⟨inside, same⟩ := List.mem_filter.mp among
      exact blanks entry inside (of_decide_eq_true same)
  rw [IsSilentAt, vacant]
  show (frame.enables .select operation.clause = true → _) ↔ _
  rw [gate]
  exact Iff.rfl

/-- The clauses of a SELECT are those before its set operations and those of the latter. -/
theorem isSilent_select_iff {frame : Frame} {body : SelectBody}
    {queries : List (Text × Operand Statement)}
    {operations : List (SetOperation × Operand Statement)} :
    (select frame body queries operations).IsSilent blank ↔
      (frame.raw = [] ∧ ∀ clause ∈ Kind.select.plainClauses,
        (select frame body queries operations).IsSilentAt blank clause) ∧
      ∀ operation : SetOperation,
        (select frame body queries operations).IsSilentAt blank operation.clause := by
  constructor
  · intro silent
    refine ⟨⟨silent.raw, fun clause member => ?_⟩, fun operation => ?_⟩
    · exact silent.clauses clause (List.mem_of_mem_filter member)
    · have known : operation.clause ∈ Kind.select.clauses := by cases operation <;> decide
      exact silent.clauses _ known
  · rintro ⟨⟨raw, plain⟩, operation⟩
    refine ⟨raw, fun clause member => ?_⟩
    rcases mem_plainClauses_or member with among | ⟨-, kind, rfl⟩
    · exact plain clause among
    · exact operation kind

theorem allBlank_select_iff {frame : Frame} {body : SelectBody}
    {queries : List (Text × Operand Statement)}
    {operations : List (SetOperation × Operand Statement)}
    (valid : (select frame body queries operations).IsValid)
    (told : (select frame body queries operations).TellsInside blank)
    (blankLayout : layout.IsBlank) :
    AllBlank ((select frame body queries operations).written layout) ↔
      (select frame body queries operations).IsSilent blank := by
  have all : ∀ operation : SetOperation, operation ∈ SetOperation.all := by
    intro operation
    cases operation <;> decide
  have outline := allBlank_flatMap_iff_of_tells (tells_select blankLayout valid told)
  have text : AllBlank (frame.render layout .select
      (body.outline (queryTexts layout.nested queries))) ↔
      frame.raw = [] ∧ ∀ clause ∈ Kind.select.plainClauses,
        (select frame body queries operations).IsSilentAt blank clause := by
    rw [Frame.render, allBlank_append_iff]
    exact and_congr (layout.allBlank_rawText_iff valid.frame.raw.fragments) outline
  rw [isSilent_select_iff, ← text, written, SelectBody.render]
  simp only [isSilentAt_operation_iff]
  by_cases supported : frame.dialect.supports .setOperations = true
  · have kept : frame.combination.IsKept := valid.frame.combination
    rw [if_pos supported, Combination.allBlank_render_iff kept blankLayout.space all,
      operationTexts_eq_map, List.forall_mem_map]
    have each (entry : SetOperation × Operand Statement) (member : entry ∈ operations) :=
      told entry.2 (List.mem_append_right _ (List.mem_map_of_mem member)) layout blankLayout
    refine and_congr Iff.rfl ?_
    constructor
    · rintro ⟨operands, raw⟩ operation -
      exact ⟨(raw operation).1,
        fun entry member _ => (each entry member).mp (operands entry member), (raw operation).2⟩
    · intro all
      refine ⟨fun entry member => ?_, fun operation => ?_⟩
      · exact (each entry member).mpr ((all entry.1 supported).2.1 entry member rfl)
      · exact ⟨(all operation supported).1, (all operation supported).2.2⟩
  · rw [if_neg supported]
    exact ⟨fun blank => ⟨blank, fun _ yes => absurd yes supported⟩, And.left⟩

end Statement

/-! ## Transaction scripts -/

/-- A command starts with its word, whatever argument it has. -/
theorem Command.opens_render (layout : Layout) (command : Command) :
    Opens (command.render layout) := by
  rw [render]
  split
  · exact command.kind.opens_word
  · exact (command.kind.opens_word.append _).append _

theorem Frame.allBlank_commandTexts_iff (layout : Layout) (frame : Frame) (kind : CommandKind)
    (argument : Option Text) :
    (∀ text ∈ frame.commandTexts layout kind argument, AllBlank text) ↔
      (frame.dialect.offers kind.gate = true → argument = none) := by
  rw [commandTexts]
  split
  · rename_i offered
    cases argument with
    | none => exact iff_of_true (List.forall_mem_nil _) fun _ => rfl
    | some text =>
        refine iff_of_false (fun blank => ?_) fun unset => ?_
        · have written := blank _ List.mem_cons_self
          exact (Command.opens_render layout { kind, argument := text }).not_allBlank written
        · cases unset offered
  · rename_i lacks
    exact iff_of_true (List.forall_mem_nil _) fun offered => absurd offered lacks

namespace Statement

variable {statement : Statement} {blank : Operand Statement → Prop} {layout : Layout}

/-- A script has nothing of its own to say if it has no raw text and none of its single commands. -/
theorem isVacant_transaction_iff {frame : Frame} {body : TransactionBody}
    {entries : List (Operand Statement)} :
    (transaction frame body entries).IsVacant ↔ frame.raw = [] ∧
      (frame.dialect.offers CommandKind.begin.gate = true → body.beginMode = none) ∧
      (frame.dialect.offers CommandKind.startTransaction.gate = true → body.startMode = none) ∧
      (frame.dialect.offers CommandKind.setTransaction.gate = true → body.setMode = none) ∧
      (frame.dialect.offers CommandKind.commit.gate = true → body.commitArgument = none) ∧
      (frame.dialect.offers CommandKind.finish.gate = true → body.endArgument = none) := by
  have single (argument : Option Text) :
      (∀ text, Content.command argument ≠ .command (some text)) ↔ argument = none := by
    cases argument with
    | none => exact iff_of_true nofun rfl
    | some text => exact iff_of_false (fun unset => unset text rfl) nofun
  constructor
  · intro vacant
    have commands := vacant.commands
    exact ⟨vacant.raw, fun offered => (single _).mp (commands .begin offered),
      fun offered => (single _).mp (commands .startTransaction offered),
      fun offered => (single _).mp (commands .setTransaction offered),
      fun offered => (single _).mp (commands .commit offered),
      fun offered => (single _).mp (commands .finish offered)⟩
  · rintro ⟨raw, begin, start, set, commit, finish⟩
    refine ⟨raw, nofun, nofun, nofun, nofun, fun command offered => ?_⟩
    cases command with
    | begin => exact (single _).mpr (begin offered)
    | startTransaction => exact (single _).mpr (start offered)
    | setTransaction => exact (single _).mpr (set offered)
    | commit => exact (single _).mpr (commit offered)
    | finish => exact (single _).mpr (finish offered)
    | savepoint | releaseSavepoint | rollback => exact nofun

theorem allBlank_transaction_iff {frame : Frame} {body : TransactionBody}
    {entries : List (Operand Statement)} (valid : (transaction frame body entries).IsValid) :
    AllBlank ((transaction frame body entries).written layout) ↔
      (transaction frame body entries).IsVacant ∧
        ∀ entry ∈ entries, AllBlank (operandText layout entry) := by
  have raw : AllBlank (layout.rawText frame.raw) ↔ frame.raw = [] :=
    layout.allBlank_rawText_iff valid.frame.raw.fragments
  rw [isVacant_transaction_iff, written, Frame.render, TransactionBody.outline_eq_map,
    List.flatMap_map, allBlank_append_iff, allBlank_flatMap_iff, raw]
  simp only [Segment.render, Part.allBlank_command_iff, TransactionBody.commandTexts,
    List.forall_mem_append, Frame.allBlank_commandTexts_iff, entryTexts_eq_map, List.forall_mem_map]
  constructor
  · rintro ⟨bare, ⟨⟨⟨⟨⟨begin, start⟩, set⟩, inside⟩, commit⟩, finish⟩⟩
    exact ⟨⟨bare, begin, start, set, commit, finish⟩, inside⟩
  · rintro ⟨⟨bare, begin, start, set, commit, finish⟩, inside⟩
    exact ⟨bare, ⟨⟨⟨⟨⟨begin, start⟩, set⟩, inside⟩, commit⟩, finish⟩⟩

/-! ## All kinds -/

theorem mem_shownOperands_iff {operand : Operand Statement} :
    operand ∈ statement.shownOperands ↔
      (∃ clause ∈ statement.kind.clauses, statement.frame.enables statement.kind clause = true ∧
        operand ∈ statement.operandsAt clause) ∨ operand ∈ statement.entries := by
  simp only [shownOperands, List.mem_append, List.mem_flatMap, List.mem_filter, and_assoc]

/-- The flag for default values is a content of INSERT alone. -/
theorem mem_clauses_of_content_defaultValues
    (set : statement.content (.clause .defaultValues) = .flag true) :
    .defaultValues ∈ statement.kind.clauses := by
  cases statement with
  | insert frame body queries source =>
      exact (by decide : Clause.defaultValues ∈ Kind.insert.clauses)
  | _ => cases set

/-- A statement that is no script is silent if it is vacant and what takes part inside it is
blank. -/
theorem isSilent_iff (noScript : statement.kind ≠ .transaction) :
    statement.IsSilent blank ↔
      statement.IsVacant ∧ ∀ operand ∈ statement.shownOperands, blank operand := by
  have entries : statement.entries = [] := by
    cases statement with
    | transaction => exact absurd rfl noScript
    | _ => rfl
  have commands (command : CommandKind) (argument : Text) :
      statement.content (.command command) ≠ .command (some argument) := by
    cases statement with
    | transaction => exact absurd rfl noScript
    | _ => nofun
  constructor
  · intro silent
    refine ⟨⟨silent.raw, fun clause member enabled => (silent.clauses clause member enabled).1,
      fun clause member enabled => (silent.clauses clause member enabled).2.1.stored,
      fun clause member enabled => (silent.clauses clause member enabled).2.2,
      fun enabled set => ?_, fun command _ argument => commands command argument⟩, ?_⟩
    · have member := mem_clauses_of_content_defaultValues set
      exact (silent.clauses _ member enabled).2.1.defaultValues rfl set
    · intro operand shown
      rw [mem_shownOperands_iff, entries] at shown
      rcases shown with ⟨clause, member, enabled, inside⟩ | entry
      · exact (silent.clauses clause member enabled).2.1.inside operand inside
      · cases entry
  · rintro ⟨vacant, inside⟩
    refine ⟨vacant.raw, fun clause member enabled => ⟨vacant.before clause member enabled,
      ⟨vacant.stored clause member enabled, ?_, fun operand among => ?_⟩,
      vacant.after clause member enabled⟩⟩
    · rintro rfl
      exact vacant.defaultValues enabled
    · exact inside operand (mem_shownOperands_iff.mpr (.inl ⟨clause, member, enabled, among⟩))

/-- A statement is written as blank characters if it has nothing of its own to say and what takes
part inside it is blank. -/
theorem IsValid.allBlank_written_iff (valid : statement.IsValid)
    (told : statement.TellsInside blank) (blankLayout : layout.IsBlank) :
    AllBlank (statement.written layout) ↔
      statement.IsVacant ∧ ∀ operand ∈ statement.shownOperands, blank operand := by
  cases statement with
  | select => exact (allBlank_select_iff valid told blankLayout).trans (isSilent_iff nofun)
  | insert =>
      exact (valid.allBlank_outline_iff rfl (tells_insert blankLayout valid told)).trans
        (isSilent_iff nofun)
  | update =>
      exact (valid.allBlank_outline_iff rfl (tells_update blankLayout valid told)).trans
        (isSilent_iff nofun)
  | delete =>
      exact (valid.allBlank_outline_iff rfl (tells_delete blankLayout valid told)).trans
        (isSilent_iff nofun)
  | values =>
      exact (valid.allBlank_outline_iff rfl (tells_values valid)).trans (isSilent_iff nofun)
  | createTable => exact (allBlank_createTable_iff valid).trans (isSilent_iff nofun)
  | dropTable =>
      exact (valid.allBlank_outline_iff rfl (tells_dropTable valid)).trans (isSilent_iff nofun)
  | dropIndex =>
      exact (valid.allBlank_outline_iff rfl (tells_dropIndex valid)).trans (isSilent_iff nofun)
  | createIndex => exact (allBlank_createIndex_iff valid).trans (isSilent_iff nofun)
  | alterTable =>
      exact (valid.allBlank_outline_iff rfl (tells_alterTable valid)).trans (isSilent_iff nofun)
  | transaction frame body entries =>
      refine (allBlank_transaction_iff valid).trans (and_congr_right fun _ => ?_)
      exact forall₂_congr fun entry member => told entry member layout blankLayout

/-! ## Blank statements -/

theorem isBlank_iff : statement.IsBlank ↔
    statement.IsVacant ∧ ∀ operand ∈ statement.shownOperands, OperandIsBlank operand := by
  constructor
  · rintro ⟨vacant, inside⟩
    exact ⟨vacant, inside⟩
  · rintro ⟨vacant, inside⟩
    exact ⟨vacant, inside⟩

/-- What is written of a statement without the trim is blank characters if the statement is
blank. -/
theorem allBlank_written_iff_isBlank (valid : statement.Everywhere IsValid)
    (blankLayout : layout.IsBlank) :
    AllBlank (statement.written layout) ↔ statement.IsBlank := by
  -- Queries are written in the nested layout, so the induction is about all blank layouts.
  induction valid generalizing layout with
  | @intro statement here inside ih =>
      have told : statement.TellsInside OperandIsBlank := by
        intro operand member other blankOther
        cases operand with
        | statement inner =>
            rw [operandText, allBlank_trimEnd_iff, ih inner member blankOther]
            constructor
            · exact .statement
            · rintro ⟨blank⟩
              assumption
        | command order =>
            exact iff_of_false (order.opens_render other).not_allBlank fun blank => by cases blank
        | fixed content =>
            constructor
            · exact .fixed
            · rintro ⟨blank⟩
              assumption
      rw [here.allBlank_written_iff told blankLayout, isBlank_iff]

/-- A statement is rendered as nothing if it is blank. -/
theorem Reachable.render_eq_nil_iff (reachable : statement.Reachable)
    (blankLayout : layout.IsBlank) : statement.render layout = [] ↔ statement.IsBlank := by
  rw [render, trimEnd_eq_nil_iff, allBlank_written_iff_isBlank reachable.isValid blankLayout]

/-! ## What does not count -/

/-- A statement without the marks that go with its name or its table: IF EXISTS, IF NOT EXISTS,
UNIQUE, CONCURRENTLY, ONLY. -/
def unmarked : Statement → Statement
  | createTable frame body => createTable frame { body with ifNotExists := false }
  | dropTable frame body => dropTable frame { body with ifExists := false }
  | dropIndex frame body => dropIndex frame { body with ifExists := false }
  | createIndex frame body =>
      createIndex frame
        { body with unique := false, concurrently := false, ifNotExists := false, only := false }
  | statement => statement

theorem isVacant_unmarked_iff (statement : Statement) :
    statement.unmarked.IsVacant ↔ statement.IsVacant := by
  cases statement with
  | createTable | dropTable | dropIndex | createIndex =>
      exact ⟨fun vacant => ⟨vacant.raw, vacant.before, vacant.stored, vacant.after, nofun, nofun⟩,
        fun vacant => ⟨vacant.raw, vacant.before, vacant.stored, vacant.after, nofun, nofun⟩⟩
  | _ => exact Iff.rfl

theorem isBlank_unmarked_iff (statement : Statement) :
    statement.unmarked.IsBlank ↔ statement.IsBlank := by
  have inside : statement.unmarked.shownOperands = statement.shownOperands := by
    cases statement <;> rfl
  rw [isBlank_iff, isBlank_iff, isVacant_unmarked_iff, inside]

/-- A common table expression has a clause of its own, at which there is no text but those of the
queries. -/
theorem isVacant_addQuery_iff (name : Text) (query : Operand Statement) :
    (statement.addQuery name query).IsVacant ↔ statement.IsVacant := by
  cases statement with
  | select | insert | update | delete =>
      exact ⟨fun vacant => ⟨vacant.raw, vacant.before, vacant.stored, vacant.after,
          vacant.defaultValues, vacant.commands⟩,
        fun vacant => ⟨vacant.raw, vacant.before, vacant.stored, vacant.after,
          vacant.defaultValues, vacant.commands⟩⟩
  | _ => exact Iff.rfl

theorem operandsAt_addQuery (statement : Statement) (name : Text) (query : Operand Statement)
    (clause : Clause) :
    (statement.addQuery name query).operandsAt clause = statement.operandsAt clause ∨
      (statement.addQuery name query).operandsAt clause =
        statement.operandsAt clause ++ [query] := by
  cases statement with
  | select frame body queries | insert frame body queries | update frame body queries
  | delete frame body queries =>
      cases clause with
      | withClause => exact .inr List.map_append
      | _ => exact .inl rfl
  | _ => exact .inl rfl

theorem entries_addQuery (statement : Statement) (name : Text) (query : Operand Statement) :
    (statement.addQuery name query).entries = statement.entries := by
  cases statement <;> rfl

theorem isBlank_addQuery_iff (name : Text) {query : Operand Statement}
    (blank : OperandIsBlank query) :
    (statement.addQuery name query).IsBlank ↔ statement.IsBlank := by
  have same (clause : Clause) :
      (∀ operand ∈ (statement.addQuery name query).operandsAt clause, OperandIsBlank operand) ↔
        ∀ operand ∈ statement.operandsAt clause, OperandIsBlank operand := by
    rcases statement.operandsAt_addQuery name query clause with old | new
    · rw [old]
    · rw [new, List.forall_mem_append, List.forall_mem_singleton, and_iff_left blank]
  rw [isBlank_iff, isBlank_iff, isVacant_addQuery_iff]
  simp only [shownOperands, List.forall_mem_append, List.forall_mem_flatMap, kind_addQuery,
    frame_addQuery, entries_addQuery, same]

/-- A statement is rendered as nothing exactly if it is blank, in whatever layout. Its marks do not
count, nor does a common table expression with a blank query, whatever its name; an index that has a
name, a table or a column is rendered as something. -/
theorem Reachable.render_eq_nil_iff_isBlank (reachable : statement.Reachable)
    (blankLayout : layout.IsBlank) :
    (statement.render layout = [] ↔ statement.IsBlank) ∧
    (∀ other : Statement, other.Reachable → other.unmarked = statement.unmarked →
      (other.render layout = [] ↔ statement.render layout = [])) ∧
    (∀ (name : Text) (query : Operand Statement), OperandIsBlank query →
      (statement.addQuery name query).Reachable →
        ((statement.addQuery name query).render layout = [] ↔ statement.render layout = [])) ∧
    ∀ (frame : Frame) (body : CreateIndexBody), statement = createIndex frame body →
      body.name ≠ [] ∨ body.table ≠ [] ∨ body.columns ≠ [] → statement.render layout ≠ [] := by
  have told := reachable.render_eq_nil_iff blankLayout
  refine ⟨told, fun other otherReachable same => ?_, fun name query blank more => ?_, ?_⟩
  · rw [told, otherReachable.render_eq_nil_iff blankLayout, ← isBlank_unmarked_iff, same,
      isBlank_unmarked_iff]
  · rw [told, more.render_eq_nil_iff blankLayout, isBlank_addQuery_iff name blank]
  · rintro frame body rfl filled blank
    obtain ⟨vacant, -⟩ := isBlank_iff.mp (told.mp blank)
    -- The three clauses are there under every dialect.
    have stored (clause : Clause) (member : clause ∈ Kind.createIndex.clauses)
        (enabled : frame.enables .createIndex clause = true) :
        (createIndex frame body).stored clause = [] := vacant.stored clause member enabled
    rcases filled with name | table | columns
    · exact name (unlessEmpty_eq_nil_iff.mp (stored .createIndex (by decide) rfl))
    · exact table (unlessEmpty_eq_nil_iff.mp (stored .onClause (by decide) rfl))
    · exact columns (stored .column (by decide) rfl)

/-- A SELECT without clauses, with another one as a common table expression and united with a third
one. -/
def hollow : Statement :=
  select { dialect := .generic } {} [("c".toList, .statement (empty .select .generic))]
    [(.union, .statement (empty .select .generic))]

theorem reachable_hollow : hollow.Reachable := by
  have made : Request.create ⟨.select, [], .dialect .generic, []⟩ .builtIn =
      .ok (empty .select .generic) := rfl
  have named : (empty .select .generic).call "with_".toList
      [.value (.text "c".toList), .statement (empty .select .generic)] =
        .ok (select { dialect := .generic } {}
          [("c".toList, .statement (empty .select .generic))] []) := rfl
  have united : (select { dialect := .generic } {}
      [("c".toList, .statement (empty .select .generic))] []).call "union".toList
        [.statement (empty .select .generic)] = .ok hollow := rfl
  have inside (arguments : List Argument)
      (only : ∀ inner, .statement inner ∈ arguments → inner = empty .select .generic) :
      ∀ inner, .statement inner ∈ arguments → inner.Reachable := by
    intro inner member
    rw [only inner member]
    exact .created made
  refine Reachable.call (Reachable.call (.created made) ?_ (inside _ ?_) named) ?_ (inside _ ?_)
    united <;> simp

theorem isBlank_hollow :
    hollow.Reachable ∧ Layout.pretty.IsBlank ∧ hollow.render .pretty = [] ∧ hollow.IsBlank ∧
      ¬twoColumns.IsBlank := by
  have blankLayout : Layout.pretty.IsBlank := ⟨by decide, by decide, by decide⟩
  have nothing : hollow.render .pretty = [] := by decide
  have something : twoColumns.render .pretty ≠ [] := by decide
  have hollowTold := (reachable_hollow.render_eq_nil_iff_isBlank blankLayout).1
  have columnsTold := (reachable_twoColumns.render_eq_nil_iff_isBlank blankLayout).1
  exact ⟨reachable_hollow, blankLayout, nothing, hollowTold.mp nothing,
    fun blank => something (columnsTold.mpr blank)⟩

end Statement
end SqlText
