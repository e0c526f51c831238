import SqlText.Proofs.Combining
import SqlText.Proofs.Gating.Basic

/-!
# Nothing is held back by a dialect

A clause that a dialect lacks is not written. If a statement has only been called under the dialect,
it holds nothing for such a clause, so nothing is held back: under a dialect with more features it
is written as it is under its own (`Statement.ReachedUnder.render_withDialect`). Only whether a DROP
may name several targets is no matter of a clause, and has to stay as it is.

The clauses of each kind are gone through once. One that every dialect has is written anyway, and
any other one has an empty text as soon as there is nothing in its slot (`Frame.IsSilent`).
-/

set_option autoImplicit false

namespace SqlText

/-! ## Wider dialects -/

/-- A dialect with all features of another, and as strict about the targets of a DROP. -/
structure Dialect.IsWidenedBy (dialect wide : Dialect) : Prop where
  supports : ∀ feature, dialect.supports feature = true → wide.supports feature = true
  drops : wide.supports .multiTargetDrop = dialect.supports .multiTargetDrop

theorem Dialect.IsWidenedBy.offers {dialect wide : Dialect} (wider : dialect.IsWidenedBy wide)
    {gate : Option Feature} (offered : dialect.offers gate = true) : wide.offers gate = true := by
  cases gate with
  | none => rfl
  | some feature => exact wider.supports feature offered

/-- Nothing is written for a clause that the frame lacks. -/
def Frame.IsSilent (layout : Layout) (kind : Kind) (frame : Frame) (segments : List Segment) :
    Prop :=
  ∀ clause part, Segment.clause clause part ∈ segments → frame.enables kind clause = false →
    part.render layout = []

section Frames

variable {kind : Kind} {frame : Frame} {wide : Dialect}
variable (wider : frame.dialect.IsWidenedBy wide)
variable (before : ∀ clause, frame.enables kind clause = false → frame.before.get clause = [])
variable (after : ∀ clause, frame.enables kind clause = false → frame.after.get clause = [])
include wider before after

theorem Segment.render_widened {layout : Layout} {clause : Clause} {part : Part}
    (silent : frame.enables kind clause = false → part.render layout = []) :
    (Segment.clause clause part).render layout kind { frame with dialect := wide } =
      (Segment.clause clause part).render layout kind frame := by
  cases enabled : frame.enables kind clause with
  | true =>
      have offered : Frame.enables { frame with dialect := wide } kind clause = true :=
        wider.offers enabled
      simp only [Segment.render, enabled, offered, if_true]
  | false =>
      simp only [Segment.render, enabled, before clause enabled, after clause enabled,
        silent enabled, Layout.wrapped_nil, ite_self]

theorem Frame.render_widened {layout : Layout} {segments : List Segment}
    (silent : frame.IsSilent layout kind segments) :
    Frame.render layout kind { frame with dialect := wide } segments =
      frame.render layout kind segments := by
  rw [Frame.render, Frame.render]
  congr 1
  refine List.flatMap_congr fun segment member => ?_
  cases segment with
  | clause place part => exact Segment.render_widened wider before after (silent place part member)
  | free part => rfl

end Frames

/-! ## Clauses with nothing to say -/

theorem targetPart_of_other {τ : Type} [DecidableEq τ] (layout : Layout) (word : τ → Text)
    {target : Option (τ × Text)} {way : τ} (other : ∀ named ∈ target, named.1 ≠ way) :
    (targetPart word target way).render layout = [] := by
  cases target with
  | none => rfl
  | some named =>
      obtain ⟨used, text⟩ := named
      rw [targetPart, if_neg (other _ rfl)]
      rfl

namespace Statement.FitsDialect

variable {frame : Frame} {queries : List (Text × Operand Statement)} (layout : Layout)

/-! Of each kind, a clause that every dialect has cannot be lacking, and any other one that lacks is
vacant. -/

theorem silent_select {body : SelectBody} {operations : List (SetOperation × Operand Statement)}
    (fits : (select frame body queries operations).FitsDialect frame.dialect) :
    frame.IsSilent layout .select (body.outline (queryTexts layout.nested queries)) := by
  intro clause part member lacks
  have vacant := fits.vacant clause lacks
  simp only [SelectBody.outline, List.mem_cons, Segment.clause.injEq, List.not_mem_nil,
    or_false] at member
  rcases member with ⟨rfl, rfl⟩ | ⟨rfl, rfl⟩ | ⟨rfl, rfl⟩ | ⟨rfl, rfl⟩ | ⟨rfl, rfl⟩ | ⟨rfl, rfl⟩ |
    ⟨rfl, rfl⟩ | ⟨rfl, rfl⟩ | ⟨rfl, rfl⟩ | ⟨rfl, rfl⟩ | ⟨rfl, rfl⟩
  · rw [show queries = [] from vacant, queryTexts]
    rfl
  iterate 6 cases lacks
  · rw [show body.windows = [] from vacant]
    rfl
  · cases lacks
  · rw [show body.limit = [] from vacant]
    rfl
  · rw [show body.offset = [] from vacant]
    rfl

theorem silent_insert {body : InsertBody} {source : Option Statement}
    (fits : (insert frame body queries source).FitsDialect frame.dialect) :
    frame.IsSilent layout .insert
      (body.outline (queryTexts layout.nested queries) (sourceText layout source)) := by
  intro clause part member lacks
  have vacant := fits.vacant clause lacks
  simp only [InsertBody.outline, List.mem_cons, Segment.clause.injEq, List.not_mem_nil,
    or_false] at member
  rcases member with ⟨rfl, rfl⟩ | ⟨rfl, rfl⟩ | ⟨rfl, rfl⟩ | ⟨rfl, rfl⟩ | ⟨rfl, rfl⟩ | ⟨rfl, rfl⟩ |
    ⟨rfl, rfl⟩ | ⟨rfl, rfl⟩ | ⟨rfl, rfl⟩ | ⟨rfl, rfl⟩
  · rw [show queries = [] from vacant, queryTexts]
    rfl
  · cases lacks
  · exact targetPart_of_other layout _ fun named among same =>
      vacant named among (congrArg InsertTarget.clause same)
  · exact targetPart_of_other layout _ fun named among same =>
      vacant named among (congrArg InsertTarget.clause same)
  · rw [show body.overriding = [] from vacant]
    rfl
  · cases lacks
  · rw [show body.defaultValues = false from vacant]
    rfl
  · cases lacks
  · rw [show body.onConflict = [] from vacant]
    rfl
  · rw [show body.output = [] from vacant]
    rfl

theorem silent_update {body : UpdateBody}
    (fits : (update frame body queries).FitsDialect frame.dialect) :
    frame.IsSilent layout .update (body.outline (queryTexts layout.nested queries)) := by
  intro clause part member lacks
  have vacant := fits.vacant clause lacks
  simp only [UpdateBody.outline, List.mem_cons, Segment.clause.injEq, List.not_mem_nil,
    or_false] at member
  rcases member with ⟨rfl, rfl⟩ | ⟨rfl, rfl⟩ | ⟨rfl, rfl⟩ | ⟨rfl, rfl⟩ | ⟨rfl, rfl⟩ | ⟨rfl, rfl⟩ |
    ⟨rfl, rfl⟩ | ⟨rfl, rfl⟩
  · rw [show queries = [] from vacant, queryTexts]
    rfl
  · cases lacks
  · exact targetPart_of_other layout _ fun named among same =>
      vacant named among (congrArg UpdateTarget.clause same)
  · cases lacks
  · rw [show body.tables = [] from vacant]
    rfl
  · rw [show body.joins = [] from vacant]
    rfl
  · cases lacks
  · rw [show body.output = [] from vacant]
    rfl

theorem silent_delete {body : DeleteBody}
    (fits : (delete frame body queries).FitsDialect frame.dialect) :
    frame.IsSilent layout .delete (body.outline (queryTexts layout.nested queries)) := by
  intro clause part member lacks
  have vacant := fits.vacant clause lacks
  simp only [DeleteBody.outline, List.mem_cons, Segment.clause.injEq, List.not_mem_nil,
    or_false] at member
  rcases member with ⟨rfl, rfl⟩ | ⟨rfl, rfl⟩ | ⟨rfl, rfl⟩ | ⟨rfl, rfl⟩ | ⟨rfl, rfl⟩ | ⟨rfl, rfl⟩ |
    ⟨rfl, rfl⟩
  · rw [show queries = [] from vacant, queryTexts]
    rfl
  · cases lacks
  · rw [show body.partitions = [] from vacant]
    rfl
  · cases lacks
  · rw [show body.order = [] from vacant]
    rfl
  · rw [show body.limit = [] from vacant]
    rfl
  · rw [show body.output = [] from vacant]
    rfl

theorem silent_createIndex {body : CreateIndexBody}
    (fits : (createIndex frame body).FitsDialect frame.dialect) :
    frame.IsSilent layout .createIndex body.outline := by
  intro clause part member lacks
  have vacant := fits.vacant clause lacks
  simp only [CreateIndexBody.outline, List.mem_cons, Segment.clause.injEq, List.not_mem_nil,
    or_false] at member
  rcases member with ⟨rfl, rfl⟩ | ⟨rfl, rfl⟩ | ⟨rfl, rfl⟩ | ⟨rfl, rfl⟩ | ⟨rfl, rfl⟩ | ⟨rfl, rfl⟩
  · cases lacks
  · cases lacks
  · rw [show body.method = [] from vacant]
    rfl
  · cases lacks
  · rw [show body.included = [] from vacant]
    rfl
  · cases lacks

theorem silent_alterTable {body : AlterTableBody}
    (fits : (alterTable frame body).FitsDialect frame.dialect) :
    frame.IsSilent layout .alterTable body.outline := by
  intro clause part member lacks
  have vacant := fits.vacant clause lacks
  simp only [AlterTableBody.outline, List.mem_cons, Segment.clause.injEq, List.not_mem_nil,
    or_false] at member
  rcases member with ⟨rfl, rfl⟩ | ⟨rfl, rfl⟩ | ⟨rfl, rfl⟩
  · cases lacks
  · rw [show body.newName = [] from vacant]
    rfl
  · cases lacks

/-- The kinds whose clauses all dialects have lack none. -/
theorem silent_of_ungated {kind : Kind} (ungated : ∀ clause, kind.gate clause = none)
    (segments : List Segment) : frame.IsSilent layout kind segments := by
  intro clause part member lacks
  rw [Frame.enables, ungated] at lacks
  cases lacks

end Statement.FitsDialect

/-! ## Statements under a wider dialect -/

theorem DropBody.outline_widened (body : DropBody) {frame : Frame} {wide : Dialect}
    (wider : frame.dialect.IsWidenedBy wide) :
    body.outline { frame with dialect := wide } = body.outline frame := by
  funext clause word
  rw [DropBody.outline, DropBody.outline]
  exact congrArg (fun several => if several = true then _ else _) wider.drops

namespace Statement

/-- A dialect without set operations has none to write. -/
theorem FitsDialect.operations_eq_nil {frame : Frame} {body : SelectBody}
    {queries : List (Text × Operand Statement)}
    {operations : List (SetOperation × Operand Statement)}
    (fits : (select frame body queries operations).FitsDialect frame.dialect)
    (lacks : frame.dialect.supports .setOperations = false) : operations = [] := by
  refine List.eq_nil_iff_forall_not_mem.mpr fun entry member => ?_
  obtain ⟨operation, operand⟩ := entry
  cases operation with
  | union => exact fits.vacant .union lacks _ member rfl
  | intersect => exact fits.vacant .intersect lacks _ member rfl
  | except => exact fits.vacant .except lacks _ member rfl

theorem FitsDialect.commandSegments_widened {frame : Frame} {wide : Dialect}
    (wider : frame.dialect.IsWidenedBy wide) (layout : Layout) {gate : Option Feature}
    (kind : CommandKind) {argument : Option Text}
    (vacant : frame.dialect.offers gate = false → argument = none) :
    Frame.commandSegments layout { frame with dialect := wide } gate kind argument =
      frame.commandSegments layout gate kind argument := by
  cases argument with
  | none => rfl
  | some text =>
      cases offered : frame.dialect.offers gate with
      | true => simp only [Frame.commandSegments, offered, wider.offers offered]
      | false => cases vacant offered

theorem FitsDialect.transaction_outline_widened {frame : Frame} {body : TransactionBody}
    {entries : List (Operand Statement)} {wide : Dialect}
    (fits : (transaction frame body entries).FitsDialect frame.dialect)
    (wider : frame.dialect.IsWidenedBy wide) (layout : Layout) (texts : List Text) :
    body.outline layout { frame with dialect := wide } texts =
      body.outline layout frame texts := by
  have same (command : CommandKind) (argument : Option Text)
      (place : (transaction frame body entries).content (.command command) = .command argument) :
      Frame.commandSegments layout { frame with dialect := wide } command.gate command argument =
        frame.commandSegments layout command.gate command argument :=
    commandSegments_widened wider layout command fun lacks =>
      Option.eq_none_iff_forall_ne_some.mpr fun text given =>
        fits.commands command lacks text (place.trans (congrArg Content.command given))
  have begins := same .begin body.beginMode rfl
  have starts := same .startTransaction body.startMode rfl
  have sets := same .setTransaction body.setMode rfl
  have commits := same .commit body.commitArgument rfl
  have ends := same .finish body.endArgument rfl
  simp only [CommandKind.gate] at begins starts sets commits ends
  simp only [TransactionBody.outline, begins, starts, sets, commits, ends]

theorem FitsDialect.written_select_widened {frame : Frame} {body : SelectBody}
    {queries : List (Text × Operand Statement)}
    {operations : List (SetOperation × Operand Statement)} {wide : Dialect}
    (fits : (select frame body queries operations).FitsDialect frame.dialect)
    (wider : frame.dialect.IsWidenedBy wide) (layout : Layout) :
    (select { frame with dialect := wide } body queries operations).written layout =
      (select frame body queries operations).written layout := by
  have clauses : Frame.render layout .select { frame with dialect := wide }
      (body.outline (queryTexts layout.nested queries)) =
        frame.render layout .select (body.outline (queryTexts layout.nested queries)) :=
    Frame.render_widened wider fits.before fits.after (fits.silent_select layout)
  have combination : Frame.combination { frame with dialect := wide } = frame.combination := rfl
  cases supported : frame.dialect.supports .setOperations with
  | true =>
      have also : wide.supports .setOperations = true := wider.supports _ supported
      simp only [written, SelectBody.render, clauses, combination, supported, also]
  | false =>
      have lacks (operation : SetOperation) :
          frame.dialect.offers (Kind.select.gate operation.clause) = false := by
        cases operation <;> exact supported
      have alone (text : Text) :
          frame.combination.render layout SetOperation.all text [] = text :=
        frame.combination_render_nil layout text
          (fun operation => fits.before _ (lacks operation))
          (fun operation => fits.after _ (lacks operation))
      rw [fits.operations_eq_nil supported]
      simp only [written, SelectBody.render, clauses, combination, operationTexts, alone, ite_self]

/-- A statement that fits its dialect is written alike under a wider one. -/
theorem FitsDialect.written_withDialect {statement : Statement} {wide : Dialect}
    (fits : statement.FitsDialect statement.dialect)
    (wider : statement.dialect.IsWidenedBy wide) (layout : Layout) :
    (statement.withDialect wide).written layout = statement.written layout := by
  have before := fits.before
  have after := fits.after
  cases statement with
  | select frame body queries operations => exact fits.written_select_widened wider layout
  | insert frame body queries source =>
      exact Frame.render_widened wider before after (fits.silent_insert layout)
  | update frame body queries =>
      exact Frame.render_widened wider before after (fits.silent_update layout)
  | delete frame body queries =>
      exact Frame.render_widened wider before after (fits.silent_delete layout)
  | values frame body =>
      exact Frame.render_widened wider before after (silent_of_ungated layout (fun _ => rfl) _)
  | createTable frame body =>
      exact Frame.render_widened wider before after (silent_of_ungated layout (fun _ => rfl) _)
  | dropTable frame body | dropIndex frame body =>
      have outline : body.outline { frame with dialect := wide } = body.outline frame :=
        body.outline_widened wider
      rw [withDialect, withFrame, Statement.frame, written, written, outline]
      exact Frame.render_widened wider before after (silent_of_ungated layout (fun _ => rfl) _)
  | createIndex frame body =>
      exact Frame.render_widened wider before after (fits.silent_createIndex layout)
  | alterTable frame body =>
      exact Frame.render_widened wider before after (fits.silent_alterTable layout)
  | transaction frame body entries =>
      rw [withDialect, withFrame, Statement.frame, written, written,
        fits.transaction_outline_widened wider layout]
      exact Frame.render_widened wider before after (silent_of_ungated layout (fun _ => rfl) _)

/-- A statement that fits its dialect fails to be written under a wider one as it does under its
own. -/
theorem FitsDialect.failure?_withDialect {statement : Statement} {wide : Dialect}
    (fits : statement.FitsDialect statement.dialect)
    (wider : statement.dialect.IsWidenedBy wide) (given : LayoutParts) :
    ((statement.withDialect wide).course given).failure? = (statement.course given).failure? := by
  have ends (other : Statement) : (other.finish given).failure? = none := rfl
  cases statement with
  | select frame body queries operations =>
      cases supported : frame.dialect.supports .setOperations with
      | true =>
          have also : wide.supports .setOperations = true := wider.supports _ supported
          simp only [withDialect, withFrame, Statement.frame, course, Course.failure?_append, ends,
            supported, also]
      | false =>
          rw [fits.operations_eq_nil supported]
          simp only [withDialect, withFrame, Statement.frame, course, Course.failure?_append, ends,
            operationCourse, ite_self]
  | dropTable frame body | dropIndex frame body =>
      have outline : body.outline { frame with dialect := wide } = body.outline frame :=
        body.outline_widened wider
      simp only [withDialect, withFrame, Statement.frame, course, Course.failure?_append, ends,
        outline]
  | createTable =>
      simp only [withDialect, withFrame, Statement.frame, course, Course.failure?_append, ends]
      rfl
  | insert | update | delete | values | createIndex | alterTable | transaction =>
      simp only [withDialect, withFrame, Statement.frame, course, Course.failure?_append, ends]

/-- A statement that has only been called under one dialect holds nothing for what the dialect
lacks. So it is rendered alike, or fails alike, under every wider dialect. -/
theorem ReachedUnder.render_withDialect {dialect : Dialect} {statement : Statement}
    (reached : ReachedUnder dialect statement) :
    statement.FitsDialect dialect ∧ ∀ wide, dialect.IsWidenedBy wide →
      (∀ layout, (statement.withDialect wide).render layout = statement.render layout) ∧
        ∀ given, ((statement.withDialect wide).course given).failure? =
          (statement.course given).failure? := by
  obtain ⟨rfl, fits⟩ := reached.fitsDialect
  refine ⟨fits, fun wide wider => ⟨fun layout => ?_, fits.failure?_withDialect wider⟩⟩
  rw [render, render, fits.written_withDialect wider]

/-- A column under a condition, asked for in standard SQL. -/
def underStandard : Statement :=
  (select { dialect := .standard } { columns := ["a".toList] } [] []).leftBy .whereAnd
    [.value (.text "b".toList)]

/-- Standard SQL with two features more. -/
def extendedStandard : Dialect :=
  ⟨.text "extended".toList, .limit :: .setOperations :: Dialect.standard.features⟩

theorem reachedUnder_standard : ReachedUnder .standard underStandard := by
  have made : Request.create ⟨.select, [.value (.text "a".toList)], .dialect .standard, []⟩
      .builtIn = .ok (select { dialect := .standard } { columns := ["a".toList] } [] []) := rfl
  exact .called "where".toList _ (.created made rfl) rfl

theorem standard_isWidenedBy : Dialect.standard.IsWidenedBy extendedStandard where
  supports := by
    intro feature
    cases feature <;> decide
  drops := by decide

theorem render_underStandard :
    (∀ clause, Dialect.standard.offers (Kind.select.gate clause) = false →
      (underStandard.content clause.slot).IsVacant clause) ∧
      ∀ layout, (underStandard.withDialect extendedStandard).render layout =
        underStandard.render layout :=
  ⟨reachedUnder_standard.render_withDialect.1.vacant,
    (reachedUnder_standard.render_withDialect.2 extendedStandard standard_isWidenedBy).1⟩

end Statement
end SqlText
