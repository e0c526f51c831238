import SqlText.Proofs.Occurrence.Part
import SqlText.Proofs.Occurrence.SetOperations

/-!
# Nothing is lost

Whatever comes about carries all that its clauses hold, in every layout
(`Statement.Reachable.carries_clauses`). For each clause that takes part these are the raw text
before it, its items and the raw text after it. The items are what is stored for the clause
(`Statement.items`). For the clauses that hold statements they are texts of those, with the names of
common table expressions, and a DROP under a dialect that drops one thing at a time has only its
last name. All clauses but the set operations carry this one after another, in the order of the
kind's clauses and behind the statement's own raw text.

Each part is shown to carry the items of its clause, kind by kind, which takes nothing but the order
of the outline. That what is carried is made of fragments is needed only where something is trimmed:
at the end of a statement, and by set operations.
-/

set_option autoImplicit false

namespace SqlText

open Text

/-! ## Items -/

/-- The clauses that set operations belong to. -/
def SetOperation.clauses : List Clause := all.map clause

/-- The clauses of a kind, its set operations apart. -/
def Kind.plainClauses (kind : Kind) : List Clause :=
  kind.clauses.filter (· ∉ SetOperation.clauses)

namespace Statement

/-- The operands of the set operations of a statement. -/
def operations : Statement → List (SetOperation × Operand Statement)
  | select _ _ _ operations => operations
  | _ => []

/-- The source of an INSERT. -/
def source : Statement → Option Statement
  | insert _ _ _ source => source
  | _ => none

/-- The names and the texts of common table expressions, those without a text left out. -/
def queryItems (layout : Layout) (statement : Statement) : List Text :=
  statement.queries.flatMap fun query =>
    let text := (operandText layout.nested query.2).trim
    if text = [] then [] else [query.1, text]

/-- The texts of the operands of one kind of set operation, those without a text left out. -/
def operandItems (layout : Layout) (statement : Statement) (operation : SetOperation) :
    List Text :=
  ((statement.operations.filter (·.1 = operation)).map
    fun entry => (operandText layout entry.2).trim).filter (· ≠ [])

/-- The names that a DROP has room for. -/
def droppedItems (statement : Statement) (clause : Clause) : List Text :=
  if statement.dialect.supports .multiTargetDrop then statement.stored clause
  else (statement.stored clause).getLast?.toList

/-- What a statement has for a clause in a layout. -/
def items (layout : Layout) (statement : Statement) (clause : Clause) : List Text :=
  match clause with
  | .withClause => statement.queryItems layout
  | .union => statement.operandItems layout .union
  | .intersect => statement.operandItems layout .intersect
  | .except => statement.operandItems layout .except
  | .dropTable => statement.droppedItems .dropTable
  | .dropIndex => statement.droppedItems .dropIndex
  | .select =>
      match statement.source with
      | some source => [(source.render layout).trim]
      | none => statement.stored .select
  | clause => statement.stored clause

/-- The items of a clause between the raw text before it and the raw text after it, if the clause
takes part. -/
def sequence (layout : Layout) (statement : Statement) : Clause → List Text :=
  statement.frame.sequence statement.kind (statement.items layout)

/-- Segments that carry one after another what the clauses of a statement do, its set operations
apart. -/
abbrev CarriesOutline (layout : Layout) (statement : Statement) (segments : List Segment) : Prop :=
  List.Forall₂ (Segment.CarriesClause layout statement.kind statement.frame
    (statement.items layout)) statement.kind.plainClauses segments

end Statement

/-! ## Outlines -/

section Outlines

variable (layout : Layout)

/-- The part with the common table expressions carries their names and texts. -/
theorem carries_queryTexts (statement : Statement) :
    Carries ((Part.queries (queryTexts layout.nested statement.queries)).render layout)
      (statement.queryItems layout) := by
  have written := Part.carries_queries layout (queryTexts layout.nested statement.queries)
  rw [Part.queryItems, queryTexts_eq_map, List.flatMap_map] at written
  rw [queryTexts_eq_map]
  exact written

theorem SelectBody.carries_outline (frame : Frame) (body : SelectBody)
    (queries : List (Text × Operand Statement))
    (operations : List (SetOperation × Operand Statement)) :
    (Statement.select frame body queries operations).CarriesOutline layout
      (body.outline (queryTexts layout.nested queries)) := by
  refine .cons ?_ (.cons ?_ (.cons ?_ (.cons ?_ (.cons ?_ (.cons ?_ (.cons ?_ (.cons ?_
    (.cons ?_ (.cons ?_ (.cons ?_ .nil))))))))))
  · exact Segment.carries_clause layout
      (carries_queryTexts layout (.select frame body queries operations))
  · exact Segment.carries_clause layout (Part.carries_list layout _ _)
  · exact Segment.carries_clause layout (Part.carries_list layout _ _)
  · exact Segment.carries_clause layout (Part.carries_lines layout _)
  · exact Segment.carries_clause layout (Part.carries_conditions layout _ _)
  · exact Segment.carries_clause layout (Part.carries_list layout _ _)
  · exact Segment.carries_clause layout (Part.carries_conditions layout _ _)
  · exact Segment.carries_clause layout (Part.carries_list layout _ _)
  · exact Segment.carries_clause layout (Part.carries_list layout _ _)
  · exact Segment.carries_clause layout (Part.carries_single layout _ _)
  · exact Segment.carries_clause layout (Part.carries_single layout _ _)

theorem carries_source (frame : Frame) (body : InsertBody)
    (queries : List (Text × Operand Statement)) (source : Option Statement) :
    Carries ((Part.embedded (sourceText layout source)).render layout)
      ((Statement.insert frame body queries source).items layout .select) := by
  cases source with
  | none => exact .nil _
  | some source =>
      have written := Part.carries_embedded layout (sourceText layout (some source))
      rw [sourceText_some] at written ⊢
      exact written

theorem InsertBody.carries_outline (frame : Frame) {body : InsertBody} (valid : body.IsValid)
    (queries : List (Text × Operand Statement)) (source : Option Statement) :
    (Statement.insert frame body queries source).CarriesOutline layout
      (body.outline (queryTexts layout.nested queries) (sourceText layout source)) := by
  have visible : ∀ named ∈ body.target, named.2 ≠ [] :=
    fun named member => (valid.target named member).ne_nil
  refine .cons ?_ (.cons ?_ (.cons ?_ (.cons ?_ (.cons ?_ (.cons ?_ (.cons ?_ (.cons ?_
    (.cons ?_ (.cons ?_ .nil)))))))))
  · exact Segment.carries_clause layout
      (carries_queryTexts layout (.insert frame body queries source))
  · exact Segment.carries_clause layout (Part.carries_target layout _ visible _)
  · exact Segment.carries_clause layout (Part.carries_target layout _ visible _)
  · exact Segment.carries_clause layout (Part.carries_target layout _ visible _)
  · exact Segment.carries_clause layout (Part.carries_single layout _ _)
  · exact Segment.carries_clause layout (Part.carries_list layout _ _)
  · exact Segment.carries_clause layout (.nil _)
  · exact Segment.carries_clause layout (carries_source layout frame body queries source)
  · exact Segment.carries_clause layout (Part.carries_single layout _ _)
  · exact Segment.carries_clause layout (Part.carries_list layout _ _)

theorem UpdateBody.carries_outline (frame : Frame) {body : UpdateBody} (valid : body.IsValid)
    (queries : List (Text × Operand Statement)) :
    (Statement.update frame body queries).CarriesOutline layout
      (body.outline (queryTexts layout.nested queries)) := by
  have visible : ∀ named ∈ body.target, named.2 ≠ [] :=
    fun named member => (valid.target named member).ne_nil
  refine .cons ?_ (.cons ?_ (.cons ?_ (.cons ?_ (.cons ?_ (.cons ?_ (.cons ?_ (.cons ?_
    .nil)))))))
  · exact Segment.carries_clause layout (carries_queryTexts layout (.update frame body queries))
  · exact Segment.carries_clause layout (Part.carries_target layout _ visible _)
  · exact Segment.carries_clause layout (Part.carries_target layout _ visible _)
  · exact Segment.carries_clause layout (Part.carries_list layout _ _)
  · exact Segment.carries_clause layout (Part.carries_list layout _ _)
  · exact Segment.carries_clause layout (Part.carries_lines layout _)
  · exact Segment.carries_clause layout (Part.carries_conditions layout _ _)
  · exact Segment.carries_clause layout (Part.carries_list layout _ _)

theorem DeleteBody.carries_outline (frame : Frame) (body : DeleteBody)
    (queries : List (Text × Operand Statement)) :
    (Statement.delete frame body queries).CarriesOutline layout
      (body.outline (queryTexts layout.nested queries)) := by
  refine .cons ?_ (.cons ?_ (.cons ?_ (.cons ?_ (.cons ?_ (.cons ?_ (.cons ?_ .nil))))))
  · exact Segment.carries_clause layout (carries_queryTexts layout (.delete frame body queries))
  · exact Segment.carries_clause layout (Part.carries_single layout _ _)
  · exact Segment.carries_clause layout (Part.carries_enclosed layout _ _)
  · exact Segment.carries_clause layout (Part.carries_conditions layout _ _)
  · exact Segment.carries_clause layout (Part.carries_list layout _ _)
  · exact Segment.carries_clause layout (Part.carries_single layout _ _)
  · exact Segment.carries_clause layout (Part.carries_list layout _ _)

theorem ValuesBody.carries_outline (frame : Frame) (body : ValuesBody) :
    (Statement.values frame body).CarriesOutline layout body.outline := by
  refine .cons ?_ .nil
  exact Segment.carries_clause layout (Part.carries_list layout _ _)

/-- A DROP carries the names that it has room for. -/
theorem DropBody.carries_outline {kind : Kind} {clause : Clause} {frame : Frame} {body : DropBody}
    (valid : body.IsValid) {items : Clause → List Text} (word : Text)
    (dropped : items clause = if frame.dialect.supports .multiTargetDrop then body.names
      else body.names.getLast?.toList) :
    List.Forall₂ (Segment.CarriesClause layout kind frame items) [clause]
      (body.outline frame clause word) := by
  rw [DropBody.outline]
  by_cases several : frame.dialect.supports .multiTargetDrop = true
  · rw [if_pos several] at dropped ⊢
    refine .cons (Segment.carries_clause layout ?_) .nil
    rw [dropped]
    exact Part.carries_list layout _ _
  · rw [if_neg several] at dropped ⊢
    refine .cons (Segment.carries_clause layout ?_) .nil
    rw [dropped]
    cases last : body.names.getLast? with
    | none => exact .nil _
    | some name =>
        have visible : name ≠ [] :=
          (valid.names.fragments name (List.mem_of_getLast? last)).ne_nil
        have single := Part.carries_single layout
          (if body.ifExists then word ++ " IF EXISTS".toList else word) name
        rw [unlessEmpty, if_neg visible] at single
        exact single

theorem carries_parenthesized (text : Text) : Carries text.parenthesized [text] := by
  rw [parenthesized]
  split
  · exact .self text
  · exact (Carries.self text).enclosed []

theorem CreateTableBody.carries_primaryKey (body : CreateTableBody)
    (before after : List Text) :
    Carries (ParameterGroup.render layout ⟨before,
        if body.primaryKey = [] then []
        else [["PRIMARY KEY".toList ++ body.primaryKey.parenthesized]], after⟩)
      (before ++ body.primaryKey.unlessEmpty ++ after) := by
  have same : (if body.primaryKey = [] then []
      else [["PRIMARY KEY".toList ++ body.primaryKey.parenthesized]]) =
      body.primaryKey.unlessEmpty.map fun key => ["PRIMARY KEY".toList ++ key.parenthesized] := by
    rw [unlessEmpty]
    split <;> rfl
  rw [same]
  refine ParameterGroup.carries_render layout before _ after fun key => ?_
  exact ((carries_parenthesized key).append_left _).join_singleton _

/-- The table clause and the four clauses of the parameter list of a CREATE TABLE. -/
theorem CreateTableBody.carries_outline (frame : Frame) (body : CreateTableBody) :
    Carries ((body.outline frame).flatMap (Segment.render layout .createTable frame))
      (Kind.createTable.plainClauses.flatMap
        (frame.sequence .createTable ((Statement.createTable frame body).items layout))) := by
  have table : Segment.CarriesClause layout .createTable frame
      ((Statement.createTable frame body).items layout) .createTable
      (.clause .createTable (.single
        (if body.ifNotExists then "CREATE TABLE IF NOT EXISTS".toList
          else "CREATE TABLE".toList) body.table)) :=
    Segment.carries_clause layout (Part.carries_single layout _ _)
  have columns := ParameterGroup.carries_render layout (frame.before.get .column) body.columns
    (frame.after.get .column) fun column => (Carries.self column).join_singleton layout.space
  have primaryKey := body.carries_primaryKey layout (frame.before.get .primaryKey)
    (frame.after.get .primaryKey)
  have constraints := ParameterGroup.carries_render layout (frame.before.get .constraint)
    body.constraints (frame.after.get .constraint) fun text =>
      (Carries.join_self layout.space ["CONSTRAINT".toList, text]).sublist
        (List.sublist_cons_self _ _)
  have foreignKeys := ParameterGroup.carries_render layout (frame.before.get .foreignKey)
    body.foreignKeys (frame.after.get .foreignKey) fun text =>
      ((carries_parenthesized text).append_left "FOREIGN KEY".toList).join_singleton layout.space
  have parameters := Part.carries_parameters layout
    (.cons columns (.cons primaryKey (.cons constraints (.cons foreignKeys .nil))))
  rw [CreateTableBody.outline, List.flatMap_cons, List.flatMap_singleton]
  exact table.append parameters

/-- The words at the start of a CREATE INDEX hold its name, if it has one. -/
theorem CreateIndexBody.sublist_head (body : CreateIndexBody) :
    body.name.unlessEmpty.Sublist body.head := by
  rw [unlessEmpty, head]
  by_cases empty : body.name = []
  · rw [if_pos empty]
    exact List.nil_sublist _
  · rw [if_neg empty, if_neg fun all => empty all.1]
    exact List.sublist_append_right _ _

theorem CreateIndexBody.sublist_tableWords (body : CreateIndexBody) :
    body.table.unlessEmpty.Sublist body.tableWords := by
  rw [unlessEmpty, tableWords]
  by_cases empty : body.table = []
  · rw [if_pos empty, if_pos empty]
  · rw [if_neg empty, if_neg empty, List.singleton_sublist]
    split
    · exact List.mem_cons_of_mem _ (List.mem_cons_of_mem _ List.mem_cons_self)
    · exact List.mem_cons_of_mem _ List.mem_cons_self

theorem CreateIndexBody.carries_outline (frame : Frame) (body : CreateIndexBody) :
    (Statement.createIndex frame body).CarriesOutline layout body.outline := by
  refine .cons ?_ (.cons ?_ (.cons ?_ (.cons ?_ (.cons ?_ (.cons ?_ .nil)))))
  · exact Segment.carries_clause layout ((Part.carries_words layout _).sublist body.sublist_head)
  · exact Segment.carries_clause layout
      ((Part.carries_words layout _).sublist body.sublist_tableWords)
  · exact Segment.carries_clause layout (Part.carries_single layout _ _)
  · exact Segment.carries_clause layout (Part.carries_enclosed layout _ _)
  · exact Segment.carries_clause layout (Part.carries_enclosed layout _ _)
  · exact Segment.carries_clause layout (Part.carries_conditions layout _ _)

theorem AlterTableBody.carries_outline (frame : Frame) (body : AlterTableBody) :
    (Statement.alterTable frame body).CarriesOutline layout body.outline := by
  have actions := Part.carries_actions layout
    (body.actions.map fun entry => (entry.1.word, entry.2))
  rw [List.map_map] at actions
  refine .cons ?_ (.cons ?_ (.cons ?_ .nil))
  · exact Segment.carries_clause layout (Part.carries_single layout _ _)
  · exact Segment.carries_clause layout (Part.carries_single layout _ _)
  · exact Segment.carries_clause layout actions

end Outlines

/-! ## Statements -/

namespace Statement

variable {statement : Statement} (layout : Layout)

/-- What a valid statement has for a clause is trimmed. -/
theorem IsValid.items (valid : statement.IsValid) (clause : Clause) :
    ∀ text ∈ statement.items layout clause, IsValue text := by
  have operands : ∀ operation, ∀ text ∈ statement.operandItems layout operation,
      IsValue text := by
    intro operation text member
    obtain ⟨entry, -, rfl⟩ := List.mem_map.mp (List.mem_of_mem_filter member)
    exact isValue_trim _
  have dropped : ∀ clause, ∀ text ∈ statement.droppedItems clause, IsValue text := by
    intro clause text member
    rw [droppedItems] at member
    split at member
    · exact .inr (valid.stored clause text member)
    · have last := Option.mem_toList.mp member
      exact .inr (valid.stored clause text (List.mem_of_getLast? last))
  unfold Statement.items
  split
  · intro text member
    obtain ⟨query, among, inside⟩ := List.mem_flatMap.mp member
    simp only at inside
    split at inside
    · cases inside
    · rcases List.mem_cons.mp inside with rfl | last
      · exact valid.names query among
      · rw [List.mem_singleton.mp last]
        exact isValue_trim _
  · exact operands .union
  · exact operands .intersect
  · exact operands .except
  · exact dropped .dropTable
  · exact dropped .dropIndex
  · split
    · exact List.forall_mem_singleton.mpr (isValue_trim _)
    · exact fun text member => .inr (valid.stored .select text member)
  · exact fun text member => .inr (valid.stored _ text member)

theorem IsValid.sequence (valid : statement.IsValid) (clause : Clause) :
    ∀ text ∈ statement.sequence layout clause, IsValue text := by
  intro text member
  rw [Statement.sequence, Frame.sequence] at member
  split at member
  · rcases List.mem_append.mp member with front | behind
    · rcases List.mem_append.mp front with raw | item
      · exact .inr (valid.frame.before.isFragment_of_mem_get raw)
      · exact valid.items layout clause text item
    · exact .inr (valid.frame.after.isFragment_of_mem_get behind)
  · cases member

/-- The statement's own raw text, and what its clauses carry but for the set operations. -/
def plainSequence (layout : Layout) (statement : Statement) : List Text :=
  statement.frame.raw ++ statement.kind.plainClauses.flatMap (statement.sequence layout)

theorem IsValid.plainSequence (valid : statement.IsValid) :
    ∀ text ∈ statement.plainSequence layout, IsValue text := by
  intro text member
  rcases List.mem_append.mp member with raw | inside
  · exact .inr (valid.frame.raw.fragments text raw)
  · obtain ⟨clause, -, item⟩ := List.mem_flatMap.mp inside
    exact valid.sequence layout clause text item

/-- A statement carries what its clauses do in their order, as soon as the segments of its outline
do. -/
theorem carries_of_outline {segments : List Segment}
    (each : statement.CarriesOutline layout segments) :
    Carries (statement.frame.render layout statement.kind segments)
      (statement.plainSequence layout) :=
  (layout.carries_rawText statement.frame.raw).append (Segment.carries_flatMap layout each)

theorem carries_plainSequence (valid : statement.IsValid) :
    Carries (statement.written layout) (statement.plainSequence layout) := by
  have values := valid.plainSequence layout
  have bodyValid := valid.body
  cases statement with
  | select frame body queries operations =>
      have clauses := carries_of_outline layout
        (SelectBody.carries_outline layout frame body queries operations)
      rw [Statement.written, SelectBody.render]
      split
      · exact Combination.carries_render layout valid.frame.combination values clauses _ _
      · exact clauses
  | insert frame body queries source =>
      rw [Statement.written]
      exact carries_of_outline layout
        (InsertBody.carries_outline layout frame bodyValid queries source)
  | update frame body queries =>
      rw [Statement.written]
      exact carries_of_outline layout (UpdateBody.carries_outline layout frame bodyValid queries)
  | delete frame body queries =>
      rw [Statement.written]
      exact carries_of_outline layout (body.carries_outline layout frame queries)
  | values frame body =>
      rw [Statement.written]
      exact carries_of_outline layout (body.carries_outline layout frame)
  | createTable frame body =>
      rw [Statement.written]
      exact (layout.carries_rawText frame.raw).append (body.carries_outline layout frame)
  | dropTable frame body =>
      have outline : (dropTable frame body).CarriesOutline layout
          (body.outline frame .dropTable "DROP TABLE".toList) :=
        DropBody.carries_outline layout bodyValid _ rfl
      rw [Statement.written]
      exact carries_of_outline layout outline
  | dropIndex frame body =>
      have outline : (dropIndex frame body).CarriesOutline layout
          (body.outline frame .dropIndex "DROP INDEX".toList) :=
        DropBody.carries_outline layout bodyValid _ rfl
      rw [Statement.written]
      exact carries_of_outline layout outline
  | createIndex frame body =>
      rw [Statement.written]
      exact carries_of_outline layout (body.carries_outline layout frame)
  | alterTable frame body =>
      rw [Statement.written]
      exact carries_of_outline layout (body.carries_outline layout frame)
  | transaction frame body entries =>
      rw [Statement.written]
      exact (layout.carries_rawText frame.raw).append (.nil _)

/-- A SELECT carries what each of its set operations does. -/
theorem carries_operation {frame : Frame} {body : SelectBody}
    {queries : List (Text × Operand Statement)}
    {operations : List (SetOperation × Operand Statement)}
    (valid : (select frame body queries operations).IsValid) (operation : SetOperation) :
    Carries ((select frame body queries operations).written layout)
      ((select frame body queries operations).sequence layout operation.clause) := by
  have same : Combination.operandsOf operation (operationTexts layout operations) =
      (operations.filter (·.1 = operation)).map
        fun entry => (operandText layout entry.2).trim := by
    rw [Combination.operandsOf, operationTexts_eq_map, List.filter_map, List.map_map]
    rfl
  have items : (select frame body queries operations).items layout operation.clause =
      (Combination.operandsOf operation (operationTexts layout operations)).filter (· ≠ []) := by
    rw [same]
    cases operation <;> rfl
  have gate : (select frame body queries operations).frame.enables
      (select frame body queries operations).kind operation.clause =
      frame.dialect.supports .setOperations := by
    cases operation <;> rfl
  have known : operation ∈ SetOperation.all := by cases operation <;> decide
  rw [Statement.sequence]
  by_cases supported : frame.dialect.supports .setOperations = true
  · have whole := Combination.carries_kind layout valid.frame.combination known
      (frame.render layout .select (body.outline (queryTexts layout.nested queries)))
      (operationTexts layout operations)
    rw [Frame.sequence_of_enabled (gate.trans supported), items, Statement.written,
      SelectBody.render, if_pos supported]
    exact whole.sublist ((List.filter_sublist.append_left _).append_right _)
  · rw [Frame.sequence, if_neg fun enabled => supported (gate.symm.trans enabled)]
    exact .nil _

/-- A clause of a kind is one of its plain clauses, or the kind is that of a SELECT and the clause
that of a set operation. -/
theorem mem_plainClauses_or {kind : Kind} {clause : Clause} (member : clause ∈ kind.clauses) :
    clause ∈ kind.plainClauses ∨
      kind = .select ∧ ∃ operation : SetOperation, clause = operation.clause := by
  by_cases isOperation : clause ∈ SetOperation.clauses
  · obtain ⟨operation, -, rfl⟩ := List.mem_map.mp isOperation
    refine .inr ⟨?_, operation, rfl⟩
    revert member
    cases kind <;> cases operation <;> decide
  · exact .inl (List.mem_filter.mpr ⟨member, by simpa using isOperation⟩)

theorem carries_sequence (valid : statement.IsValid) {clause : Clause}
    (member : clause ∈ statement.kind.clauses) :
    Carries (statement.written layout) (statement.sequence layout clause) := by
  rcases mem_plainClauses_or member with plain | ⟨isSelect, operation, rfl⟩
  · obtain ⟨front, back, split⟩ := List.append_of_mem plain
    have whole := carries_plainSequence layout valid
    rw [plainSequence, split, List.flatMap_append, List.flatMap_cons] at whole
    refine whole.sublist ?_
    refine List.Sublist.trans ?_ (List.sublist_append_right _ _)
    refine List.Sublist.trans ?_ (List.sublist_append_right _ _)
    exact List.sublist_append_left _ _
  · cases statement with
    | select frame body queries operations => exact carries_operation layout valid operation
    | insert | update | delete | values | createTable | dropTable | dropIndex | createIndex
    | alterTable | transaction => cases isSelect

/-- Whatever comes about carries, for each of its clauses that takes part, the raw text before it,
its items and the raw text after it. It also carries its own raw text and then all this in the
order of its clauses, its set operations apart. -/
theorem Reachable.carries_clauses {statement : Statement} (reachable : statement.Reachable)
    (layout : Layout) :
    (∀ clause ∈ statement.kind.clauses, statement.frame.enables statement.kind clause = true →
      Carries (statement.render layout)
        (statement.frame.before.get clause ++ statement.items layout clause ++
          statement.frame.after.get clause)) ∧
    Carries (statement.render layout)
      (statement.frame.raw ++ statement.kind.plainClauses.flatMap (statement.sequence layout)) := by
  have valid := reachable.isValid.here
  refine ⟨?_, ?_⟩
  · intro clause member enabled
    have carries := (carries_sequence layout valid member).trimEnd (valid.sequence layout clause)
    rwa [Statement.sequence, Frame.sequence_of_enabled enabled] at carries
  · exact (carries_plainSequence layout valid).trimEnd (valid.plainSequence layout)

theorem carries_united : united.Reachable ∧
    Carries (united.render .compact) ["a".toList, "b".toList] ∧
      Carries (united.render .compact) ["SELECT a, b".toList] := by
  have carries := (Reachable.carries_clauses reachable_united .compact).1
  refine ⟨reachable_united, ?_, ?_⟩
  · exact carries .select (by decide) (by decide)
  · exact carries .union (by decide) (by decide)

end Statement

end SqlText
