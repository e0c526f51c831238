import SqlText.Proofs.CallOrder
import SqlText.Proofs.Gating.Basic
import SqlText.Proofs.Stored

/-!
# What a dialect lacks is not written

A statement may hold something for a clause that its dialect lacks: its dialect may have been
replaced since. `Statement.cleared` is the statement without such things, that is, without the
content and the raw text of those clauses and without the commands that the dialect lacks, and with
everything else. Nothing of what is cleared away is written, so the two are rendered alike
(`Statement.render_cleared`). A rendering is therefore a function of what the dialect has, and what
is held beside that comes back as soon as the dialect does.

There are three ways in which something is left out: a clause is not written (`Segment.render`), a
SELECT ends before its set operations (`SelectBody.render`), and a command is not listed
(`Frame.commandSegments`). Two ways to name one target may differ in whether the dialect has them;
then the target goes with the way in which it was named.
-/

set_option autoImplicit false

namespace SqlText

/-- The content if it is held, and none if it is not. -/
def heldIf {α : Type} [Inhabited α] (isHeld : Bool) (content : α) : α :=
  if isHeld then content else default

section Held

variable {α : Type} [Inhabited α] {isHeld : Bool} (content : α)

@[simp]
theorem heldIf_true : heldIf true content = content := rfl

@[simp]
theorem heldIf_false : heldIf false content = default := rfl

theorem heldIf_of_eq_false (lacks : isHeld = false) : heldIf isHeld content = default := by
  rw [lacks, heldIf_false]

end Held

/-! ## Frames -/

theorem RawText.get_filter {κ : Type} [DecidableEq κ] (raw : RawText κ) (isKept : κ → Bool)
    (key : κ) : RawText.get (raw.filter fun entry => isKept entry.1) key =
      if isKept key then raw.get key else [] := by
  induction raw with
  | nil => exact (ite_self _).symm
  | cons head rest ih =>
      obtain ⟨other, texts⟩ := head
      simp only [RawText.get] at ih ⊢
      by_cases same : key = other
      · subst same
        cases kept : isKept key with
        | true => simp [kept]
        | false => simpa [kept] using ih
      · have apart : (key == other) = false := beq_false_of_ne same
        cases kept : isKept other with
        | true => simpa [kept, List.lookup_cons, apart] using ih
        | false => simpa [kept, List.lookup_cons, apart] using ih

namespace Frame

/-- The frame with raw text around those clauses only that the dialect has. -/
def cleared (kind : Kind) (frame : Frame) : Frame :=
  { frame with
    before := frame.before.filter fun entry => frame.enables kind entry.1
    after := frame.after.filter fun entry => frame.enables kind entry.1 }

variable {kind : Kind} {frame : Frame}

theorem get_before_cleared (clause : Clause) : (frame.cleared kind).before.get clause =
    if frame.enables kind clause then frame.before.get clause else [] :=
  RawText.get_filter frame.before (frame.enables kind) clause

theorem get_after_cleared (clause : Clause) : (frame.cleared kind).after.get clause =
    if frame.enables kind clause then frame.after.get clause else [] :=
  RawText.get_filter frame.after (frame.enables kind) clause

theorem enables_of_ungated {clause : Clause} (ungated : kind.gate clause = none) :
    frame.enables kind clause = true := by
  rw [enables, ungated]
  rfl

/-- A kind whose clauses all dialects have loses no raw text. -/
theorem cleared_of_ungated (ungated : ∀ clause, kind.gate clause = none) :
    frame.cleared kind = frame := by
  have all (raw : RawText Clause) : raw.filter (fun entry => frame.enables kind entry.1) = raw :=
    List.filter_eq_self.mpr fun entry _ => enables_of_ungated (ungated entry.1)
  rw [cleared, all, all]

end Frame

/-! ## Segments -/

/-- The segments lie in the same place, and say the same if it takes part. -/
def Segment.Agrees (kind : Kind) (frame : Frame) : Segment → Segment → Prop
  | .clause place part, .clause other otherPart =>
      other = place ∧ (frame.enables kind place = true → otherPart = part)
  | .free part, .free otherPart => otherPart = part
  | _, _ => False

theorem Segment.Agrees.render_segment {kind : Kind} {frame : Frame} {segment other : Segment}
    (agrees : segment.Agrees kind frame other) (layout : Layout) :
    other.render layout kind (frame.cleared kind) = segment.render layout kind frame := by
  cases segment with
  | clause place part =>
      cases other with
      | clause otherPlace otherPart =>
          obtain ⟨rfl, same⟩ := agrees
          have enables : (frame.cleared kind).enables kind otherPlace =
            frame.enables kind otherPlace := rfl
          cases enabled : frame.enables kind otherPlace with
          | true =>
              simp only [Segment.render, enables, enabled, if_true, Frame.get_before_cleared,
                Frame.get_after_cleared, same enabled]
          | false =>
              simp only [Segment.render, enables, enabled, Bool.false_eq_true, if_false]
      | free => exact agrees.elim
  | free part =>
      cases other with
      | clause => exact agrees.elim
      | free otherPart => exact congrArg (Part.render layout) agrees

theorem Frame.render_of_agree {kind : Kind} {frame : Frame} {segments others : List Segment}
    (agree : List.Forall₂ (Segment.Agrees kind frame) segments others) (layout : Layout) :
    (frame.cleared kind).render layout kind others = frame.render layout kind segments := by
  rw [Frame.render, Frame.render]
  congr 1
  induction agree with
  | nil => rfl
  | cons first rest ih =>
      rw [List.flatMap_cons, List.flatMap_cons, first.render_segment layout, ih]

/-! ## Bodies -/

section Targets

variable {τ : Type} (target : Option (τ × Text)) (isHeld : τ → Bool) {way : τ}

/-- A target is only taken away if it was named in another way than one that is held. -/
theorem filter_target_cases (held : isHeld way = true) :
    target.filter (fun named => isHeld named.1) = target ∨
      target.filter (fun named => isHeld named.1) = none ∧ ∀ named ∈ target, named.1 ≠ way := by
  cases target with
  | none => exact .inl rfl
  | some named =>
      cases kept : isHeld named.1 with
      | true => exact .inl (by simp [Option.filter, kept])
      | false =>
          refine .inr ⟨by simp [Option.filter, kept], fun other same used => ?_⟩
          cases same
          rw [used, held] at kept
          cases kept

theorem targetPart_filter [DecidableEq τ] (word : τ → Text) (held : isHeld way = true) :
    targetPart word (target.filter fun named => isHeld named.1) way =
      targetPart word target way := by
  rcases filter_target_cases target isHeld held with same | ⟨gone, others⟩
  · rw [same]
  · rw [gone]
    cases target with
    | none => rfl
    | some named => simp only [targetPart, others named rfl, if_false]

theorem targetTexts_filter [DecidableEq τ] (held : isHeld way = true) :
    targetTexts (target.filter fun named => isHeld named.1) way = targetTexts target way := by
  rcases filter_target_cases target isHeld held with same | ⟨gone, others⟩
  · rw [same]
  · rw [gone]
    cases target with
    | none => rfl
    | some named => simp only [targetTexts, others named rfl, if_false]

end Targets

/-- The SELECT with those clauses only that are held. -/
def SelectBody.cleared (isHeld : Clause → Bool) (body : SelectBody) : SelectBody where
  columns := heldIf (isHeld .select) body.columns
  tables := heldIf (isHeld .fromClause) body.tables
  joins := heldIf (isHeld .join) body.joins
  conditions := heldIf (isHeld .whereClause) body.conditions
  groups := heldIf (isHeld .groupBy) body.groups
  groupConditions := heldIf (isHeld .having) body.groupConditions
  windows := heldIf (isHeld .window) body.windows
  order := heldIf (isHeld .orderBy) body.order
  limit := heldIf (isHeld .limit) body.limit
  offset := heldIf (isHeld .offset) body.offset

/-- The INSERT with those clauses only that are held. -/
def InsertBody.cleared (isHeld : Clause → Bool) (body : InsertBody) : InsertBody where
  target := body.target.filter fun named => isHeld named.1.clause
  overriding := heldIf (isHeld .overriding) body.overriding
  rows := heldIf (isHeld .values) body.rows
  defaultValues := heldIf (isHeld .defaultValues) body.defaultValues
  onConflict := heldIf (isHeld .onConflict) body.onConflict
  output := heldIf (isHeld .returning) body.output

/-- The UPDATE with those clauses only that are held. -/
def UpdateBody.cleared (isHeld : Clause → Bool) (body : UpdateBody) : UpdateBody where
  target := body.target.filter fun named => isHeld named.1.clause
  assignments := heldIf (isHeld .set) body.assignments
  tables := heldIf (isHeld .fromClause) body.tables
  joins := heldIf (isHeld .join) body.joins
  conditions := heldIf (isHeld .whereClause) body.conditions
  output := heldIf (isHeld .returning) body.output

/-- The DELETE with those clauses only that are held. -/
def DeleteBody.cleared (isHeld : Clause → Bool) (body : DeleteBody) : DeleteBody where
  table := heldIf (isHeld .deleteFrom) body.table
  partitions := heldIf (isHeld .partition) body.partitions
  conditions := heldIf (isHeld .whereClause) body.conditions
  order := heldIf (isHeld .orderBy) body.order
  limit := heldIf (isHeld .limit) body.limit
  output := heldIf (isHeld .returning) body.output

/-- The CREATE INDEX with those clauses only that are held. Its marks are no clauses. -/
def CreateIndexBody.cleared (isHeld : Clause → Bool) (body : CreateIndexBody) : CreateIndexBody :=
  { body with
    name := heldIf (isHeld .createIndex) body.name
    table := heldIf (isHeld .onClause) body.table
    method := heldIf (isHeld .usingClause) body.method
    columns := heldIf (isHeld .column) body.columns
    included := heldIf (isHeld .includeClause) body.included
    conditions := heldIf (isHeld .whereClause) body.conditions }

/-- The ALTER TABLE with those clauses only that are held. -/
def AlterTableBody.cleared (isHeld : Clause → Bool) (body : AlterTableBody) : AlterTableBody where
  table := heldIf (isHeld .alterTable) body.table
  newName := heldIf (isHeld .renameTo) body.newName
  actions := heldIf (isHeld .actions) body.actions

/-- The transaction script with those single commands only that the dialect has. -/
def TransactionBody.cleared (dialect : Dialect) (body : TransactionBody) : TransactionBody where
  beginMode := heldIf (dialect.offers CommandKind.begin.gate) body.beginMode
  startMode := heldIf (dialect.offers CommandKind.startTransaction.gate) body.startMode
  setMode := heldIf (dialect.offers CommandKind.setTransaction.gate) body.setMode
  commitArgument := heldIf (dialect.offers CommandKind.commit.gate) body.commitArgument
  endArgument := heldIf (dialect.offers CommandKind.finish.gate) body.endArgument

/-! ## What the bodies store -/

section Stored

variable {isHeld : Clause → Bool} {clause : Clause} (held : isHeld clause = true)
include held

theorem SelectBody.stored_cleared (body : SelectBody) :
    (body.cleared isHeld).stored clause = body.stored clause := by
  cases clause <;> simp only [stored, cleared, held, heldIf_true]

theorem InsertBody.stored_cleared (body : InsertBody) :
    (body.cleared isHeld).stored clause = body.stored clause := by
  cases clause with
  | insertInto | insertOr | replaceInto =>
      exact targetTexts_filter body.target (fun used => isHeld used.clause) held
  | _ => simp only [stored, cleared, held, heldIf_true]

theorem UpdateBody.stored_cleared (body : UpdateBody) :
    (body.cleared isHeld).stored clause = body.stored clause := by
  cases clause with
  | update | updateOr =>
      exact targetTexts_filter body.target (fun used => isHeld used.clause) held
  | _ => simp only [stored, cleared, held, heldIf_true]

theorem DeleteBody.stored_cleared (body : DeleteBody) :
    (body.cleared isHeld).stored clause = body.stored clause := by
  cases clause <;> simp only [stored, cleared, held, heldIf_true]

theorem CreateIndexBody.stored_cleared (body : CreateIndexBody) :
    (body.cleared isHeld).stored clause = body.stored clause := by
  cases clause <;> simp only [stored, cleared, held, heldIf_true]

theorem AlterTableBody.stored_cleared (body : AlterTableBody) :
    (body.cleared isHeld).stored clause = body.stored clause := by
  cases clause <;> simp only [stored, cleared, held, heldIf_true]

end Stored

/-! ## Outlines -/

section Outlines

variable (frame : Frame) (queries : List (Text × Operand Statement)) (nested layout : Layout)

theorem SelectBody.outline_cleared (body : SelectBody) :
    List.Forall₂ (Segment.Agrees .select frame)
      (body.outline (queryTexts nested queries))
      ((body.cleared (frame.enables .select)).outline
        (queryTexts nested (heldIf (frame.enables .select .withClause) queries))) := by
  simp +contextual [outline, cleared, Segment.Agrees]

theorem InsertBody.outline_cleared (body : InsertBody) (source : Option Statement) :
    List.Forall₂ (Segment.Agrees .insert frame)
      (body.outline (queryTexts nested queries) (sourceText layout source))
      ((body.cleared (frame.enables .insert)).outline
        (queryTexts nested (heldIf (frame.enables .insert .withClause) queries))
        (sourceText layout (heldIf (frame.enables .insert .select) source))) := by
  have target (way : InsertTarget) (held : frame.enables .insert way.clause = true) :=
    targetPart_filter body.target (fun used => frame.enables .insert used.clause)
      InsertTarget.word held
  have variants := And.intro (target .insertOr) (target .replaceInto)
  have targets := And.intro (target .insertInto) variants
  simpa +contextual [outline, cleared, Segment.Agrees, InsertTarget.clause] using targets

theorem UpdateBody.outline_cleared (body : UpdateBody) :
    List.Forall₂ (Segment.Agrees .update frame) (body.outline (queryTexts nested queries))
      ((body.cleared (frame.enables .update)).outline
        (queryTexts nested (heldIf (frame.enables .update .withClause) queries))) := by
  have target (way : UpdateTarget) (held : frame.enables .update way.clause = true) :=
    targetPart_filter body.target (fun used => frame.enables .update used.clause)
      UpdateTarget.word held
  have targets := And.intro (target .update) (target .updateOr)
  simpa +contextual [outline, cleared, Segment.Agrees, UpdateTarget.clause] using targets

theorem DeleteBody.outline_cleared (body : DeleteBody) :
    List.Forall₂ (Segment.Agrees .delete frame) (body.outline (queryTexts nested queries))
      ((body.cleared (frame.enables .delete)).outline
        (queryTexts nested (heldIf (frame.enables .delete .withClause) queries))) := by
  simp +contextual [outline, cleared, Segment.Agrees]

theorem CreateIndexBody.outline_cleared (body : CreateIndexBody) :
    List.Forall₂ (Segment.Agrees .createIndex frame) body.outline
      (body.cleared (frame.enables .createIndex)).outline := by
  have head : (body.cleared (frame.enables .createIndex)).head = body.head := rfl
  have table : (body.cleared (frame.enables .createIndex)).tableWords = body.tableWords := rfl
  have columns : (body.cleared (frame.enables .createIndex)).columns = body.columns := rfl
  simp only [outline, head, table, columns]
  simp +contextual [cleared, Segment.Agrees]

theorem AlterTableBody.outline_cleared (body : AlterTableBody) :
    List.Forall₂ (Segment.Agrees .alterTable frame) body.outline
      (body.cleared (frame.enables .alterTable)).outline := by
  simp +contextual [outline, cleared, Segment.Agrees]

theorem Frame.commandSegments_heldIf (gate : Option Feature) (kind : CommandKind)
    (argument : Option Text) :
    frame.commandSegments layout gate kind (heldIf (frame.dialect.offers gate) argument) =
      frame.commandSegments layout gate kind argument := by
  cases offered : frame.dialect.offers gate with
  | true => rfl
  | false =>
      cases argument with
      | none => rfl
      | some text => simp only [commandSegments, offered, Bool.false_eq_true, if_false]; rfl

theorem TransactionBody.outline_cleared (body : TransactionBody) (texts : List Text) :
    (body.cleared frame.dialect).outline layout frame texts = body.outline layout frame texts := by
  have same := frame.commandSegments_heldIf layout
  have begins := same CommandKind.begin.gate .begin body.beginMode
  have starts := same CommandKind.startTransaction.gate .startTransaction body.startMode
  have sets := same CommandKind.setTransaction.gate .setTransaction body.setMode
  have commits := same CommandKind.commit.gate .commit body.commitArgument
  have ends := same CommandKind.finish.gate .finish body.endArgument
  simp only [CommandKind.gate] at begins starts sets commits ends
  simp only [outline, cleared, CommandKind.gate, begins, starts, sets, commits, ends]

end Outlines

namespace Statement

/-- The statement without what its dialect lacks: without the content and the raw text of the
clauses that it lacks, and without the commands. Four of the kinds have no such clause. -/
def cleared : Statement → Statement
  | select frame body queries operations =>
      let isHeld := frame.enables .select
      select (frame.cleared .select) (body.cleared isHeld) (heldIf (isHeld .withClause) queries)
        (operations.filter fun entry => isHeld entry.1.clause)
  | insert frame body queries source =>
      let isHeld := frame.enables .insert
      insert (frame.cleared .insert) (body.cleared isHeld) (heldIf (isHeld .withClause) queries)
        (heldIf (isHeld .select) source)
  | update frame body queries =>
      let isHeld := frame.enables .update
      update (frame.cleared .update) (body.cleared isHeld) (heldIf (isHeld .withClause) queries)
  | delete frame body queries =>
      let isHeld := frame.enables .delete
      delete (frame.cleared .delete) (body.cleared isHeld) (heldIf (isHeld .withClause) queries)
  | createIndex frame body =>
      createIndex (frame.cleared .createIndex) (body.cleared (frame.enables .createIndex))
  | alterTable frame body =>
      alterTable (frame.cleared .alterTable) (body.cleared (frame.enables .alterTable))
  | transaction frame body entries => transaction frame (body.cleared frame.dialect) entries
  | statement => statement

theorem kind_cleared (statement : Statement) : statement.cleared.kind = statement.kind := by
  cases statement <;> rfl

theorem frame_cleared (statement : Statement) :
    statement.cleared.frame = statement.frame.cleared statement.kind := by
  cases statement with
  | select | insert | update | delete | createIndex | alterTable => rfl
  | values | createTable | dropTable | dropIndex | transaction =>
      exact (Frame.cleared_of_ungated fun _ => rfl).symm

/-! ## What is cleared away -/

theorem clause_ne_of_held {isHeld : Clause → Bool} {clause other : Clause}
    (lacks : isHeld clause = false) (held : isHeld other = true) : other ≠ clause := by
  rintro rfl
  cases lacks.symm.trans held

/-- A cleared statement has no content for a clause that its dialect lacks. -/
theorem isVacant_cleared (statement : Statement) {clause : Clause}
    (lacks : statement.frame.enables statement.kind clause = false) :
    (statement.cleared.content clause.slot).IsVacant clause := by
  cases statement with
  | select frame body queries operations =>
      cases clause with
      | withClause | window | limit | offset => exact heldIf_of_eq_false _ lacks
      | union | intersect | except =>
          exact fun entry member => clause_ne_of_held lacks (List.mem_filter.mp member).2
      | _ => cases lacks
  | insert frame body queries source =>
      cases clause with
      | withClause | overriding | defaultValues | onConflict | returning =>
          exact heldIf_of_eq_false _ lacks
      | insertOr | replaceInto =>
          exact fun named member => clause_ne_of_held lacks (Option.mem_filter_iff.mp member).2
      | _ => cases lacks
  | update frame body queries =>
      cases clause with
      | withClause | fromClause | join | returning => exact heldIf_of_eq_false _ lacks
      | updateOr =>
          exact fun named member => clause_ne_of_held lacks (Option.mem_filter_iff.mp member).2
      | _ => cases lacks
  | delete frame body queries =>
      cases clause with
      | withClause | partition | orderBy | limit | returning => exact heldIf_of_eq_false _ lacks
      | _ => cases lacks
  | createIndex frame body =>
      cases clause with
      | usingClause | includeClause => exact heldIf_of_eq_false _ lacks
      | _ => cases lacks
  | alterTable frame body =>
      cases clause with
      | renameTo => exact heldIf_of_eq_false _ lacks
      | _ => cases lacks
  | values | createTable | dropTable | dropIndex | transaction => cases lacks

theorem fitsDialect_cleared (statement : Statement) :
    statement.cleared.FitsDialect statement.dialect where
  vacant := by
    intro clause lacks
    rw [kind_cleared] at lacks
    exact statement.isVacant_cleared lacks
  before := by
    intro clause lacks
    rw [kind_cleared] at lacks
    have enables : statement.frame.enables statement.kind clause = false := lacks
    rw [frame_cleared, Frame.get_before_cleared, enables]
    rfl
  after := by
    intro clause lacks
    rw [kind_cleared] at lacks
    have enables : statement.frame.enables statement.kind clause = false := lacks
    rw [frame_cleared, Frame.get_after_cleared, enables]
    rfl
  commands := by
    intro command lacks argument same
    cases statement with
    | transaction frame body entries =>
        cases command with
        | begin | startTransaction | setTransaction | finish =>
            cases (Content.command.inj same).symm.trans (heldIf_of_eq_false _ lacks)
        | commit => cases lacks
        | _ => cases same
    | _ => cases command <;> cases same

/-! ## What is kept -/

/-- What a statement stores for a clause that its dialect has is kept. -/
theorem stored_cleared (statement : Statement) {clause : Clause}
    (held : statement.frame.enables statement.kind clause = true) :
    statement.cleared.stored clause = statement.stored clause := by
  cases statement with
  | select frame body | insert frame body | update frame body | delete frame body
  | createIndex frame body | alterTable frame body => exact body.stored_cleared held
  | values | createTable | dropTable | dropIndex | transaction => rfl

/-! ## Renderings -/

theorem written_cleared (statement : Statement) (layout : Layout) :
    statement.cleared.written layout = statement.written layout := by
  cases statement with
  | select frame body queries operations =>
      have agree := body.outline_cleared frame queries layout.nested
      have clauses := Frame.render_of_agree agree layout
      have dialect : (frame.cleared .select).dialect = frame.dialect := rfl
      cases supported : frame.dialect.supports .setOperations with
      | true =>
          have held (operation : SetOperation) :
              frame.enables .select operation.clause = true := by
            cases operation <;> exact supported
          have combination : (frame.cleared .select).combination = frame.combination := by
            simp only [Frame.combination, Frame.get_before_cleared, Frame.get_after_cleared, held,
              if_true]
          simp only [cleared, written, SelectBody.render, clauses, dialect, supported, combination,
            held, List.filter_true]
      | false =>
          simp only [cleared, written, SelectBody.render, clauses, dialect, supported,
            Bool.false_eq_true, if_false]
  | insert frame body queries source =>
      have agree := body.outline_cleared frame queries layout.nested layout source
      exact Frame.render_of_agree agree layout
  | update frame body queries =>
      exact Frame.render_of_agree (body.outline_cleared frame queries layout.nested) layout
  | delete frame body queries =>
      exact Frame.render_of_agree (body.outline_cleared frame queries layout.nested) layout
  | createIndex frame body => exact Frame.render_of_agree (body.outline_cleared frame) layout
  | alterTable frame body => exact Frame.render_of_agree (body.outline_cleared frame) layout
  | transaction frame body entries =>
      rw [cleared, written, written, body.outline_cleared]
  | values | createTable | dropTable | dropIndex => rfl

/-- What a dialect lacks is not written: the cleared statement, which holds nothing of it and all
the rest, is rendered alike. So are two statements that are the same when they are cleared, and a
statement that has been under another dialect in between. -/
theorem render_cleared (statement : Statement) :
    (statement.cleared.kind = statement.kind ∧
      statement.cleared.FitsDialect statement.dialect) ∧
    (∀ clause, statement.frame.enables statement.kind clause = true →
      statement.cleared.stored clause = statement.stored clause ∧
        statement.cleared.frame.before.get clause = statement.frame.before.get clause ∧
          statement.cleared.frame.after.get clause = statement.frame.after.get clause) ∧
    (∀ layout, statement.cleared.render layout = statement.render layout) ∧
    (∀ other : Statement, SameContent statement.cleared other.cleared →
      ∀ layout, other.render layout = statement.render layout) ∧
    ∀ dialect layout,
      ((statement.withDialect dialect).withDialect statement.dialect).render layout =
        statement.render layout := by
  have alike (statement : Statement) (layout : Layout) :
      statement.cleared.render layout = statement.render layout :=
    congrArg Text.trimEnd (statement.written_cleared layout)
  refine ⟨⟨statement.kind_cleared, statement.fitsDialect_cleared⟩, fun clause held => ?_,
    alike statement, fun other same layout => ?_, fun dialect layout => ?_⟩
  · rw [frame_cleared, Frame.get_before_cleared, Frame.get_after_cleared, if_pos held, if_pos held]
    exact ⟨statement.stored_cleared held, rfl, rfl⟩
  · rw [← alike other, ← alike statement]
    exact same.render layout
  · cases statement <;> rfl

/-- Two columns with a limit, under a dialect without limits then. -/
def outgrown : Statement :=
  (twoColumns.leftBy .limit [.value (.int 5)]).withDialect .standard

theorem reachable_outgrown : outgrown.Reachable := by
  refine .rededicated _ (.called "limit".toList _ reachable_twoColumns rfl ?_ ?_)
  · exact fun entry member => by simp at member
  · exact fun inner member => by simp at member

theorem render_cleared_outgrown :
    outgrown.Reachable ∧ outgrown.stored .limit = ["5".toList] ∧
      outgrown.cleared.stored .limit = [] ∧
        ∀ layout, outgrown.cleared.render layout = outgrown.render layout :=
  ⟨reachable_outgrown, by decide, by decide, outgrown.render_cleared.2.2.1⟩

end Statement
end SqlText
