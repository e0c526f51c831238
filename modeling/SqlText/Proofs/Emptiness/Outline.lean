import SqlText.Proofs.Agreement
import SqlText.Proofs.Emptiness.Part
import SqlText.Proofs.Gating.Basic
import SqlText.Proofs.Occurrence.Statement

/-!
# Clauses without text

Whether a statement is rendered as nothing can be told without rendering it. It is *blank*
(`Statement.IsBlank`) if it stores nothing at the clauses that its dialect has and everything that
takes part inside it is blank in turn; layouts do not come into this.

A statement writes its clauses one after another, so each clause is looked at by itself. It is
silent (`Statement.IsSilentAt`) if it does not take part, or if there is neither raw text around it
nor anything at it, and then its segment is blank (`Statement.TellsBlank`). For all kinds of
statements but those that write several clauses as one segment, this is said of the whole outline
here (`Statement.TellsOutline`). What stands inside the statement is assumed to tell whether it is
blank (`Statement.TellsInside`), which is what the induction on statements provides.
-/

set_option autoImplicit false

namespace SqlText

open Text

/-! ## What is blank -/

namespace Statement

/-- What stands inside a statement at a clause. -/
def operandsAt (statement : Statement) : Clause → List (Operand Statement)
  | .withClause => statement.queries.map Prod.snd
  | .select => (statement.source.map Operand.statement).toList
  | .union => (statement.operations.filter (·.1 = .union)).map Prod.snd
  | .intersect => (statement.operations.filter (·.1 = .intersect)).map Prod.snd
  | .except => (statement.operations.filter (·.1 = .except)).map Prod.snd
  | _ => []

/-- What stands inside a statement where it takes part: at the clauses that the dialect has, and
among the entries of a transaction script. -/
def shownOperands (statement : Statement) : List (Operand Statement) :=
  (statement.kind.clauses.filter (statement.frame.enables statement.kind)).flatMap
    statement.operandsAt ++ statement.entries

/-- A statement has nothing of its own to say: no raw text at its start, no raw text and no content
at the clauses that take part, and no single command that the dialect offers. What stands inside it,
and the marks on it that only ever go with something else, are not looked at. -/
structure IsVacant (statement : Statement) : Prop where
  raw : statement.frame.raw = []
  before : ∀ clause ∈ statement.kind.clauses,
    statement.frame.enables statement.kind clause = true → statement.frame.before.get clause = []
  stored : ∀ clause ∈ statement.kind.clauses,
    statement.frame.enables statement.kind clause = true → statement.stored clause = []
  after : ∀ clause ∈ statement.kind.clauses,
    statement.frame.enables statement.kind clause = true → statement.frame.after.get clause = []
  defaultValues : statement.frame.enables statement.kind .defaultValues = true →
    statement.content (.clause .defaultValues) ≠ .flag true
  commands : ∀ command : CommandKind, statement.dialect.offers command.gate = true →
    ∀ argument, statement.content (.command command) ≠ .command (some argument)

end Statement

mutual
/-- A statement is blank if it has nothing of its own to say and whatever takes part inside it is
blank. -/
inductive Statement.IsBlank : Statement → Prop where
  | intro {statement : Statement} (vacant : statement.IsVacant)
      (inside : ∀ operand ∈ statement.shownOperands, OperandIsBlank operand) :
      Statement.IsBlank statement

/-- What stands inside a statement is blank if it is a blank statement, or a content that is the
same in every layout and has only blank characters. A command is never blank. -/
inductive OperandIsBlank : Operand Statement → Prop where
  | statement {inner : Statement} (blank : inner.IsBlank) : OperandIsBlank (.statement inner)
  | fixed {content : Value} (blank : AllBlank content.shown) : OperandIsBlank (.fixed content)
end

theorem AlterAction.isFragment_word (action : AlterAction) : IsFragment action.word := by
  cases action <;> exact Text.isFragment_word (by decide)

/-! ## Clauses one after another -/

namespace Statement

/-- There is nothing at a clause: no content, and inside it only what is blank. -/
structure IsVacantAt (blank : Operand Statement → Prop) (statement : Statement) (clause : Clause) :
    Prop where
  stored : statement.stored clause = []
  defaultValues : clause = .defaultValues → statement.content (.clause clause) ≠ .flag true
  inside : ∀ operand ∈ statement.operandsAt clause, blank operand

/-- A clause does not take part, or there is nothing at it and no raw text around it. -/
def IsSilentAt (blank : Operand Statement → Prop) (statement : Statement) (clause : Clause) :
    Prop :=
  statement.frame.enables statement.kind clause = true →
    statement.frame.before.get clause = [] ∧ statement.IsVacantAt blank clause ∧
      statement.frame.after.get clause = []

/-- A clause and the segment that it is written as: the segment is blank if the clause is silent. -/
def TellsBlank (layout : Layout) (blank : Operand Statement → Prop) (statement : Statement)
    (clause : Clause) (segment : Segment) : Prop :=
  AllBlank (segment.render layout statement.kind statement.frame) ↔
    statement.IsSilentAt blank clause

/-- Segments that tell one after another whether the clauses of a statement are silent. -/
abbrev TellsOutline (layout : Layout) (blank : Operand Statement → Prop) (statement : Statement)
    (segments : List Segment) : Prop :=
  List.Forall₂ (statement.TellsBlank layout blank) statement.kind.plainClauses segments

variable {statement : Statement} {blank : Operand Statement → Prop} {layout : Layout}

theorem allBlank_flatMap_iff_of_tells {clauses : List Clause} {segments : List Segment}
    (each : List.Forall₂ (statement.TellsBlank layout blank) clauses segments) :
    AllBlank (segments.flatMap (Segment.render layout statement.kind statement.frame)) ↔
      ∀ clause ∈ clauses, statement.IsSilentAt blank clause := by
  induction each with
  | nil => exact iff_of_true allBlank_nil nofun
  | cons head _ ih =>
      rw [List.flatMap_cons, allBlank_append_iff, ih, List.forall_mem_cons]
      exact and_congr head Iff.rfl

/-- At most clauses there is nothing but texts. -/
theorem isVacantAt_iff_stored {clause : Clause} (textsOnly : statement.operandsAt clause = [])
    (other : clause ≠ .defaultValues) :
    statement.IsVacantAt blank clause ↔ statement.stored clause = [] := by
  refine ⟨IsVacantAt.stored, fun stored => ⟨stored, fun same => absurd same other, ?_⟩⟩
  rw [textsOnly]
  exact nofun

theorem IsValid.tells_stored (valid : statement.IsValid) {clause : Clause} {part : Part}
    (textsOnly : statement.operandsAt clause = []) (other : clause ≠ .defaultValues)
    (told : AllBlank (part.render layout) ↔ statement.stored clause = []) :
    statement.TellsBlank layout blank clause (.clause clause part) :=
  Segment.allBlank_clause_iff valid.frame layout
    (told.trans (isVacantAt_iff_stored textsOnly other).symm)

/-- What stands inside a statement is written as blank characters, in whatever layout, if it is
blank. -/
def TellsInside (blank : Operand Statement → Prop) (statement : Statement) : Prop :=
  ∀ operand ∈ statement.operands, ∀ layout : Layout, layout.IsBlank →
    (AllBlank (operandText layout operand) ↔ blank operand)

theorem tells_queries (valid : statement.IsValid) (told : statement.TellsInside blank)
    (among : ∀ query ∈ statement.queries, query.2 ∈ statement.operands)
    (plain : statement.stored .withClause = []) (blankLayout : layout.IsBlank) :
    statement.TellsBlank layout blank .withClause
      (.clause .withClause (.queries (queryTexts layout.nested statement.queries))) := by
  refine Segment.allBlank_clause_iff valid.frame layout ?_
  rw [Part.allBlank_queries_iff, queryTexts_eq_map, List.forall_mem_map]
  have each (query : Text × Operand Statement) (member : query ∈ statement.queries) :=
    told query.2 (among query member) layout.nested blankLayout.nested
  constructor
  · intro blanks
    refine ⟨plain, nofun, fun operand member => ?_⟩
    obtain ⟨query, inside, rfl⟩ := List.mem_map.mp member
    exact (each query inside).mp (blanks query inside)
  · intro vacant query member
    exact (each query member).mpr (vacant.inside _ (List.mem_map_of_mem member))

/-! ### Outlines -/

section Outlines

variable (blankLayout : layout.IsBlank)
include blankLayout

theorem tells_select {frame : Frame} {body : SelectBody}
    {queries : List (Text × Operand Statement)}
    {operations : List (SetOperation × Operand Statement)}
    (valid : (select frame body queries operations).IsValid)
    (told : (select frame body queries operations).TellsInside blank) :
    TellsOutline layout blank (select frame body queries operations)
      (body.outline (queryTexts layout.nested queries)) := by
  have bodyValid : body.IsValid := valid.body
  refine .cons ?_ (.cons ?_ (.cons ?_ (.cons ?_ (.cons ?_ (.cons ?_ (.cons ?_ (.cons ?_
    (.cons ?_ (.cons ?_ (.cons ?_ .nil))))))))))
  · exact tells_queries valid told
      (fun query member => List.mem_append_left _ (List.mem_map_of_mem member)) rfl blankLayout
  · exact valid.tells_stored rfl nofun
      (Part.allBlank_list_iff layout (isFragment_word (by decide)) bodyValid.columns.fragments)
  · exact valid.tells_stored rfl nofun
      (Part.allBlank_list_iff layout (isFragment_word (by decide)) bodyValid.tables.fragments)
  · exact valid.tells_stored rfl nofun (Part.allBlank_lines_iff layout bodyValid.joins.fragments)
  · exact valid.tells_stored rfl nofun
      (Part.allBlank_conditions_iff layout (isFragment_word (by decide)))
  · exact valid.tells_stored rfl nofun
      (Part.allBlank_list_iff layout (isFragment_word (by decide)) bodyValid.groups.fragments)
  · exact valid.tells_stored rfl nofun
      (Part.allBlank_conditions_iff layout (isFragment_word (by decide)))
  · exact valid.tells_stored rfl nofun
      (Part.allBlank_list_iff layout (isFragment_word (by decide)) bodyValid.windows.fragments)
  · exact valid.tells_stored rfl nofun
      (Part.allBlank_list_iff layout (isFragment_word (by decide)) bodyValid.order.fragments)
  · exact valid.tells_stored rfl nofun
      (Part.allBlank_single_iff layout (isFragment_word (by decide)) bodyValid.limit)
  · exact valid.tells_stored rfl nofun
      (Part.allBlank_single_iff layout (isFragment_word (by decide)) bodyValid.offset)

theorem tells_insert {frame : Frame} {body : InsertBody}
    {queries : List (Text × Operand Statement)} {source : Option Statement}
    (valid : (insert frame body queries source).IsValid)
    (told : (insert frame body queries source).TellsInside blank) :
    TellsOutline layout blank (insert frame body queries source)
      (body.outline (queryTexts layout.nested queries) (sourceText layout source)) := by
  have bodyValid : body.IsValid := valid.body
  refine .cons ?_ (.cons ?_ (.cons ?_ (.cons ?_ (.cons ?_ (.cons ?_ (.cons ?_ (.cons ?_
    (.cons ?_ (.cons ?_ .nil)))))))))
  · exact tells_queries valid told
      (fun query member => List.mem_append_left _ (List.mem_map_of_mem member)) rfl blankLayout
  · exact valid.tells_stored rfl nofun
      (Part.allBlank_target_iff layout (isFragment_word (by decide)) bodyValid.target)
  · exact valid.tells_stored rfl nofun
      (Part.allBlank_target_iff layout (isFragment_word (by decide)) bodyValid.target)
  · exact valid.tells_stored rfl nofun
      (Part.allBlank_target_iff layout (isFragment_word (by decide)) bodyValid.target)
  · exact valid.tells_stored rfl nofun
      (Part.allBlank_single_iff layout (isFragment_word (by decide)) bodyValid.overriding)
  · exact valid.tells_stored rfl nofun
      (Part.allBlank_list_iff layout (isFragment_word (by decide)) bodyValid.rows.fragments)
  · refine Segment.allBlank_clause_iff valid.frame layout ?_
    rw [Part.allBlank_flag_iff layout (isFragment_word (by decide))]
    constructor
    · intro unset
      refine ⟨rfl, fun _ same => ?_, nofun⟩
      have set : body.defaultValues = true := Content.flag.inj same
      rw [unset] at set
      cases set
    · intro vacant
      exact Bool.eq_false_iff.mpr fun set => vacant.defaultValues rfl (congrArg Content.flag set)
  · refine Segment.allBlank_clause_iff valid.frame layout ?_
    rw [Part.allBlank_embedded_iff]
    cases source with
    | none => exact iff_of_true allBlank_nil ⟨rfl, nofun, nofun⟩
    | some inner =>
        have same := told (.statement inner) (List.mem_append_right _ List.mem_cons_self) layout
          blankLayout
        refine same.trans ⟨fun isBlank => ⟨rfl, nofun, ?_⟩, fun vacant => ?_⟩
        · exact List.forall_mem_singleton.mpr isBlank
        · exact vacant.inside _ List.mem_cons_self
  · exact valid.tells_stored rfl nofun
      (Part.allBlank_single_iff layout (isFragment_word (by decide)) bodyValid.onConflict)
  · exact valid.tells_stored rfl nofun
      (Part.allBlank_list_iff layout (isFragment_word (by decide)) bodyValid.output.fragments)

theorem tells_update {frame : Frame} {body : UpdateBody}
    {queries : List (Text × Operand Statement)} (valid : (update frame body queries).IsValid)
    (told : (update frame body queries).TellsInside blank) :
    TellsOutline layout blank (update frame body queries)
      (body.outline (queryTexts layout.nested queries)) := by
  have bodyValid : body.IsValid := valid.body
  refine .cons ?_ (.cons ?_ (.cons ?_ (.cons ?_ (.cons ?_ (.cons ?_ (.cons ?_ (.cons ?_
    .nil)))))))
  · exact tells_queries valid told (fun query member => List.mem_map_of_mem member) rfl blankLayout
  · exact valid.tells_stored rfl nofun
      (Part.allBlank_target_iff layout (isFragment_word (by decide)) bodyValid.target)
  · exact valid.tells_stored rfl nofun
      (Part.allBlank_target_iff layout (isFragment_word (by decide)) bodyValid.target)
  · exact valid.tells_stored rfl nofun
      (Part.allBlank_list_iff layout (isFragment_word (by decide)) bodyValid.assignments.fragments)
  · exact valid.tells_stored rfl nofun
      (Part.allBlank_list_iff layout (isFragment_word (by decide)) bodyValid.tables.fragments)
  · exact valid.tells_stored rfl nofun (Part.allBlank_lines_iff layout bodyValid.joins.fragments)
  · exact valid.tells_stored rfl nofun
      (Part.allBlank_conditions_iff layout (isFragment_word (by decide)))
  · exact valid.tells_stored rfl nofun
      (Part.allBlank_list_iff layout (isFragment_word (by decide)) bodyValid.output.fragments)

theorem tells_delete {frame : Frame} {body : DeleteBody}
    {queries : List (Text × Operand Statement)} (valid : (delete frame body queries).IsValid)
    (told : (delete frame body queries).TellsInside blank) :
    TellsOutline layout blank (delete frame body queries)
      (body.outline (queryTexts layout.nested queries)) := by
  have bodyValid : body.IsValid := valid.body
  refine .cons ?_ (.cons ?_ (.cons ?_ (.cons ?_ (.cons ?_ (.cons ?_ (.cons ?_ .nil))))))
  · exact tells_queries valid told (fun query member => List.mem_map_of_mem member) rfl blankLayout
  · exact valid.tells_stored rfl nofun
      (Part.allBlank_single_iff layout (isFragment_word (by decide)) bodyValid.table)
  · exact valid.tells_stored rfl nofun (Part.allBlank_enclosed_iff layout)
  · exact valid.tells_stored rfl nofun
      (Part.allBlank_conditions_iff layout (isFragment_word (by decide)))
  · exact valid.tells_stored rfl nofun
      (Part.allBlank_list_iff layout (isFragment_word (by decide)) bodyValid.order.fragments)
  · exact valid.tells_stored rfl nofun
      (Part.allBlank_single_iff layout (isFragment_word (by decide)) bodyValid.limit)
  · exact valid.tells_stored rfl nofun
      (Part.allBlank_list_iff layout (isFragment_word (by decide)) bodyValid.output.fragments)

end Outlines

theorem tells_values {frame : Frame} {body : ValuesBody} (valid : (values frame body).IsValid) :
    TellsOutline layout blank (values frame body) body.outline := by
  have bodyValid : body.IsValid := valid.body
  refine .cons ?_ .nil
  exact valid.tells_stored rfl nofun
    (Part.allBlank_list_iff layout (isFragment_word (by decide)) bodyValid.rows.fragments)

theorem tells_alterTable {frame : Frame} {body : AlterTableBody}
    (valid : (alterTable frame body).IsValid) :
    TellsOutline layout blank (alterTable frame body) body.outline := by
  have bodyValid : body.IsValid := valid.body
  have words : ∀ action ∈ body.actions.map fun entry => (entry.1.word, entry.2),
      IsFragment action.1 := by
    intro action member
    obtain ⟨entry, -, rfl⟩ := List.mem_map.mp member
    exact entry.1.isFragment_word
  refine .cons ?_ (.cons ?_ (.cons ?_ .nil))
  · exact valid.tells_stored rfl nofun
      (Part.allBlank_single_iff layout (isFragment_word (by decide)) bodyValid.table)
  · exact valid.tells_stored rfl nofun
      (Part.allBlank_single_iff layout (isFragment_word (by decide)) bodyValid.newName)
  · refine valid.tells_stored rfl nofun ((Part.allBlank_actions_iff layout words).trans ?_)
    rw [List.map_eq_nil_iff]
    exact List.map_eq_nil_iff.symm

end Statement

/-- A DROP has one part, which has nothing to show if nothing is named. -/
theorem DropBody.IsValid.exists_outline {body : DropBody} (valid : body.IsValid) (layout : Layout)
    (frame : Frame) (clause : Clause) {word : Text}
    (plain : IsFragment word ∧ IsFragment (word ++ " IF EXISTS".toList)) :
    ∃ part, body.outline frame clause word = [.clause clause part] ∧
      (AllBlank (part.render layout) ↔ body.names = []) := by
  have keyword : IsFragment (if body.ifExists then word ++ " IF EXISTS".toList else word) := by
    split
    · exact plain.2
    · exact plain.1
  rw [DropBody.outline]
  by_cases several : frame.dialect.supports .multiTargetDrop = true
  · rw [if_pos several]
    exact ⟨_, rfl, Part.allBlank_list_iff layout keyword valid.names.fragments⟩
  · rw [if_neg several]
    refine ⟨_, rfl, ?_⟩
    cases last : body.names.getLast? with
    | none => exact iff_of_true allBlank_nil (List.getLast?_eq_none_iff.mp last)
    | some name =>
        have visible : IsFragment name :=
          valid.names.fragments name (List.mem_of_getLast? last)
        rw [Option.getD_some, Part.allBlank_single_iff layout keyword (.inr visible), unlessEmpty,
          if_neg visible.ne_nil]
        exact iff_of_false (List.cons_ne_nil _ _) fun unset => by
          rw [unset] at last
          cases last

namespace CreateIndexBody

/-- There are no words before the table of an index if it has no name, no table and no column. -/
theorem head_eq_nil_iff (body : CreateIndexBody) :
    body.head = [] ↔ body.name = [] ∧ body.table = [] ∧ body.columns = [] := by
  rw [head]
  split
  · rename_i isEmpty
    exact iff_of_true rfl isEmpty
  · rename_i nonempty
    refine iff_of_false (fun isEmpty => ?_) nonempty
    simp only [List.append_eq_nil_iff] at isEmpty
    exact List.cons_ne_nil _ _ isEmpty.1.1.1.1.1

theorem tableWords_eq_nil_iff (body : CreateIndexBody) :
    body.tableWords = [] ↔ body.table = [] := by
  rw [tableWords]
  split
  · exact iff_of_true rfl (by assumption)
  · refine iff_of_false ?_ (by assumption)
    split <;> exact List.cons_ne_nil _ _

variable {body : CreateIndexBody}

theorem IsValid.isFragment_of_mem_head (valid : body.IsValid) :
    ∀ word ∈ body.head, IsFragment word := by
  intro word member
  rcases mem_head member with keyword | ⟨rfl, visible⟩
  · have plain : ∀ other ∈ headWords, other.trim = other ∧ other ≠ [] := by decide
    exact isFragment_word (plain word keyword)
  · exact valid.name.isFragment visible

theorem IsValid.isFragment_of_mem_tableWords (valid : body.IsValid) :
    ∀ word ∈ body.tableWords, IsFragment word := by
  intro word member
  rcases mem_tableWords member with keyword | ⟨rfl, visible⟩
  · have plain : ∀ other ∈ tableKeywords, other.trim = other ∧ other ≠ [] := by decide
    exact isFragment_word (plain word keyword)
  · exact valid.table.isFragment visible

end CreateIndexBody

namespace Statement

variable {statement : Statement} {blank : Operand Statement → Prop} {layout : Layout}

theorem tells_dropTable {frame : Frame} {body : DropBody} (valid : (dropTable frame body).IsValid) :
    TellsOutline layout blank (dropTable frame body)
      (body.outline frame .dropTable "DROP TABLE".toList) := by
  have bodyValid : body.IsValid := valid.body
  have plain : IsFragment "DROP TABLE".toList ∧
      IsFragment ("DROP TABLE".toList ++ " IF EXISTS".toList) :=
    ⟨isFragment_word (by decide), isFragment_word (by decide)⟩
  obtain ⟨part, shape, told⟩ := bodyValid.exists_outline layout frame .dropTable plain
  rw [shape]
  exact .cons (valid.tells_stored rfl nofun told) .nil

theorem tells_dropIndex {frame : Frame} {body : DropBody} (valid : (dropIndex frame body).IsValid) :
    TellsOutline layout blank (dropIndex frame body)
      (body.outline frame .dropIndex "DROP INDEX".toList) := by
  have bodyValid : body.IsValid := valid.body
  have plain : IsFragment "DROP INDEX".toList ∧
      IsFragment ("DROP INDEX".toList ++ " IF EXISTS".toList) :=
    ⟨isFragment_word (by decide), isFragment_word (by decide)⟩
  obtain ⟨part, shape, told⟩ := bodyValid.exists_outline layout frame .dropIndex plain
  rw [shape]
  exact .cons (valid.tells_stored rfl nofun told) .nil

/-- All clauses of a CREATE INDEX but the first one tell for themselves whether they are silent. -/
theorem tells_createIndex_tail {frame : Frame} {body : CreateIndexBody}
    (valid : (createIndex frame body).IsValid) :
    List.Forall₂ ((createIndex frame body).TellsBlank layout blank)
      Kind.createIndex.clauses.tail body.outline.tail := by
  have bodyValid : body.IsValid := valid.body
  have words := (Part.allBlank_words_iff layout bodyValid.isFragment_of_mem_tableWords).trans
    (body.tableWords_eq_nil_iff.trans unlessEmpty_eq_nil_iff.symm)
  refine .cons ?_ (.cons ?_ (.cons ?_ (.cons ?_ (.cons ?_ .nil))))
  · exact valid.tells_stored rfl (by decide) words
  · exact valid.tells_stored rfl (by decide)
      (Part.allBlank_single_iff layout (isFragment_word (by decide)) bodyValid.method)
  · exact valid.tells_stored rfl (by decide) (Part.allBlank_enclosed_iff layout)
  · exact valid.tells_stored rfl (by decide) (Part.allBlank_enclosed_iff layout)
  · exact valid.tells_stored rfl (by decide)
      (Part.allBlank_conditions_iff layout (isFragment_word (by decide)))

end Statement
end SqlText
