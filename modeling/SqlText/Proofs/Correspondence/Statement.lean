import SqlText.Proofs.Correspondence.Part
import SqlText.Proofs.Reachable

/-!
# Statements that correspond

Every kind of statement has an outline of parts that correspond in two layouts if the texts that
the statement stores correspond to themselves and the texts of the statements inside it correspond.
By induction over the statements inside one another, the renderings of a valid statement in two
corresponding layouts correspond (`Correspondence.statement`). The induction has to range over all
pairs of corresponding layouts, since common table expressions are laid out in the nested ones.
-/

set_option autoImplicit false

namespace SqlText

open Text

/-- The groups of a valid parameter list can be seen in every layout. -/
theorem CreateTableBody.isVisible_groups {frame : Frame} {body : CreateTableBody}
    (framed : frame.IsValid Kind.createTable.clauses) (valid : body.IsValid) :
    ∀ group ∈ body.groups frame, group.IsVisible := by
  have around (clause : Clause) (entries : List (List Text))
      (visible : ∀ entry ∈ entries, ∃ first rest, entry = first :: rest ∧ first ≠ []) :
      ParameterGroup.IsVisible ⟨frame.before.get clause, entries, frame.after.get clause⟩ :=
    ⟨fun text member => (framed.before.isFragment_of_mem_get member).ne_nil, visible,
      fun text member => (framed.after.isFragment_of_mem_get member).ne_nil⟩
  simp only [CreateTableBody.groups, List.forall_mem_cons]
  refine ⟨around _ _ ?_, around _ _ ?_, around _ _ ?_, around _ _ ?_, nofun⟩
  · intro entry member
    obtain ⟨column, among, rfl⟩ := List.mem_map.mp member
    exact ⟨column, [], rfl, (valid.columns.fragments column among).ne_nil⟩
  · intro entry member
    split at member
    · cases member
    · rw [List.mem_singleton.mp member]
      exact ⟨_, [], rfl, List.cons_ne_nil _ _⟩
  · intro entry member
    obtain ⟨text, among, rfl⟩ := List.mem_map.mp member
    exact ⟨_, _, rfl, List.cons_ne_nil _ _⟩
  · intro entry member
    obtain ⟨text, among, rfl⟩ := List.mem_map.mp member
    exact ⟨_, [], rfl, List.cons_ne_nil _ _⟩

namespace Correspondence

variable {κ : Correspondence} {f g : Layout}

variable (κ) in
/-- Segments correspond when they are in the same place and their parts correspond. -/
inductive Segments : Segment → Segment → Prop where
  | clause (place : Clause) {first second : Part} (parts : κ.Parts first second) :
      Segments (.clause place first) (.clause place second)
  | free {first second : Part} (parts : κ.Parts first second) :
      Segments (.free first) (.free second)

theorem segment (layouts : κ.layouts f g) (kind : Kind) {frame : Frame}
    (fixed : ∀ text ∈ frame.texts, κ.Fixes text) {first second : Segment}
    (segments : κ.Segments first second) :
    κ.texts (first.render f kind frame) (second.render g kind frame) := by
  cases segments with
  | clause place parts =>
      simp only [Segment.render]
      split
      · exact wrapped layouts (Frame.fits_before fixed place) (part layouts parts)
          (Frame.fits_after fixed place)
      · exact nil
  | free parts => exact part layouts parts

theorem frame (layouts : κ.layouts f g) (kind : Kind) {frame : Frame}
    (fixed : ∀ text ∈ frame.texts, κ.Fixes text) {first second : List Segment}
    (segments : List.Forall₂ κ.Segments first second) :
    κ.texts (frame.render f kind first) (frame.render g kind second) := by
  refine κ.append (rawText layouts (Frame.fits_raw fixed)) ?_
  induction segments with
  | nil => exact nil
  | cons head tail ih =>
      rw [List.flatMap_cons, List.flatMap_cons]
      exact κ.append (segment layouts kind fixed head) ih

/-! ## Outlines -/

section Outlines

theorem selectOutline {body : SelectBody} {first second : List (Text × Text)}
    (fixed : ∀ clause ∈ Kind.select.clauses, ∀ text ∈ body.stored clause, κ.Fixes text)
    (queries : List.Forall₂ κ.Named first second) :
    List.Forall₂ κ.Segments (body.outline first) (body.outline second) := by
  have conditions : ∀ condition ∈ body.conditions, κ.Fixes condition.2 := fun condition member =>
    fixed .whereClause (by decide) _ (List.mem_map_of_mem member)
  have groupConditions : ∀ condition ∈ body.groupConditions, κ.Fixes condition.2 :=
    fun condition member => fixed .having (by decide) _ (List.mem_map_of_mem member)
  simp only [SelectBody.outline, List.forall₂_cons]
  exact ⟨.clause _ (.queries queries),
    .clause _ (.list (κ.keyword (by decide)) (fixed .select (by decide))),
    .clause _ (.list (κ.keyword (by decide)) (fixed .fromClause (by decide))),
    .clause _ (.lines (fixed .join (by decide))),
    .clause _ (.conditions (κ.keyword (by decide)) conditions),
    .clause _ (.list (κ.keyword (by decide)) (fixed .groupBy (by decide))),
    .clause _ (.conditions (κ.keyword (by decide)) groupConditions),
    .clause _ (.list (κ.keyword (by decide)) (fixed .window (by decide))),
    .clause _ (.list (κ.keyword (by decide)) (fixed .orderBy (by decide))),
    .clause _ (.single (κ.keyword (by decide)) (fixed .limit (by decide))),
    .clause _ (.single (κ.keyword (by decide)) (fixed .offset (by decide))), .nil⟩

theorem insertOutline {body : InsertBody} {first second : List (Text × Text)} {a b : Text}
    (fixed : ∀ clause ∈ Kind.insert.clauses, ∀ text ∈ body.stored clause, κ.Fixes text)
    (queries : List.Forall₂ κ.Named first second) (source : κ.texts a b) :
    List.Forall₂ κ.Segments (body.outline first a) (body.outline second b) := by
  simp only [InsertBody.outline, List.forall₂_cons]
  exact ⟨.clause _ (.queries queries),
    .clause _ (.target (κ.keyword (by decide)) (fixed .insertInto (by decide))),
    .clause _ (.target (κ.keyword (by decide)) (fixed .insertOr (by decide))),
    .clause _ (.target (κ.keyword (by decide)) (fixed .replaceInto (by decide))),
    .clause _ (.single (κ.keyword (by decide)) (fixed .overriding (by decide))),
    .clause _ (.list (κ.keyword (by decide)) (fixed .values (by decide))),
    .clause _ (.flag (κ.keyword (by decide)) _),
    .clause _ (.embedded source),
    .clause _ (.single (κ.keyword (by decide)) (fixed .onConflict (by decide))),
    .clause _ (.list (κ.keyword (by decide)) (fixed .returning (by decide))), .nil⟩

theorem updateOutline {body : UpdateBody} {first second : List (Text × Text)}
    (fixed : ∀ clause ∈ Kind.update.clauses, ∀ text ∈ body.stored clause, κ.Fixes text)
    (queries : List.Forall₂ κ.Named first second) :
    List.Forall₂ κ.Segments (body.outline first) (body.outline second) := by
  have conditions : ∀ condition ∈ body.conditions, κ.Fixes condition.2 := fun condition member =>
    fixed .whereClause (by decide) _ (List.mem_map_of_mem member)
  simp only [UpdateBody.outline, List.forall₂_cons]
  exact ⟨.clause _ (.queries queries),
    .clause _ (.target (κ.keyword (by decide)) (fixed .update (by decide))),
    .clause _ (.target (κ.keyword (by decide)) (fixed .updateOr (by decide))),
    .clause _ (.list (κ.keyword (by decide)) (fixed .set (by decide))),
    .clause _ (.list (κ.keyword (by decide)) (fixed .fromClause (by decide))),
    .clause _ (.lines (fixed .join (by decide))),
    .clause _ (.conditions (κ.keyword (by decide)) conditions),
    .clause _ (.list (κ.keyword (by decide)) (fixed .returning (by decide))), .nil⟩

theorem deleteOutline {body : DeleteBody} {first second : List (Text × Text)}
    (fixed : ∀ clause ∈ Kind.delete.clauses, ∀ text ∈ body.stored clause, κ.Fixes text)
    (queries : List.Forall₂ κ.Named first second) :
    List.Forall₂ κ.Segments (body.outline first) (body.outline second) := by
  have conditions : ∀ condition ∈ body.conditions, κ.Fixes condition.2 := fun condition member =>
    fixed .whereClause (by decide) _ (List.mem_map_of_mem member)
  simp only [DeleteBody.outline, List.forall₂_cons]
  exact ⟨.clause _ (.queries queries),
    .clause _ (.single (κ.keyword (by decide)) (fixed .deleteFrom (by decide))),
    .clause _ (.enclosed (κ.keyword (by decide)) (fixed .partition (by decide))),
    .clause _ (.conditions (κ.keyword (by decide)) conditions),
    .clause _ (.list (κ.keyword (by decide)) (fixed .orderBy (by decide))),
    .clause _ (.single (κ.keyword (by decide)) (fixed .limit (by decide))),
    .clause _ (.list (κ.keyword (by decide)) (fixed .returning (by decide))), .nil⟩

theorem valuesOutline {body : ValuesBody}
    (fixed : ∀ clause ∈ Kind.values.clauses, ∀ text ∈ body.stored clause, κ.Fixes text) :
    List.Forall₂ κ.Segments body.outline body.outline := by
  simp only [ValuesBody.outline, List.forall₂_cons]
  exact ⟨.clause _ (.list (κ.keyword (by decide)) (fixed .values (by decide))), .nil⟩

/-- A text in parentheses corresponds to itself if the text does. -/
theorem fixes_parenthesized {text : Text} (fixed : κ.Fixes text) : κ.Fixes text.parenthesized := by
  rw [Text.parenthesized]
  split
  · exact fixed
  · exact κ.parentheses fixed

theorem groups {frame : Frame} {body : CreateTableBody}
    (framed : frame.IsValid Kind.createTable.clauses) (valid : body.IsValid)
    (raw : ∀ text ∈ frame.texts, κ.Fixes text)
    (fixed : ∀ clause ∈ Kind.createTable.clauses, ∀ text ∈ body.stored clause, κ.Fixes text) :
    ∀ group ∈ body.groups frame, κ.FixesGroup group := by
  have visible := CreateTableBody.isVisible_groups framed valid
  have key : κ.Fixes "PRIMARY KEY".toList := κ.keyword (by decide)
  have foreign : κ.Fixes "FOREIGN KEY".toList := κ.keyword (by decide)
  have named : κ.Fixes "CONSTRAINT".toList := κ.keyword (by decide)
  simp only [CreateTableBody.groups, List.forall_mem_cons] at visible ⊢
  obtain ⟨columns, primary, constraints, foreigns, -⟩ := visible
  refine ⟨⟨columns, Frame.fits_before raw _, ?_, Frame.fits_after raw _⟩,
    ⟨primary, Frame.fits_before raw _, ?_, Frame.fits_after raw _⟩,
    ⟨constraints, Frame.fits_before raw _, ?_, Frame.fits_after raw _⟩,
    ⟨foreigns, Frame.fits_before raw _, ?_, Frame.fits_after raw _⟩, nofun⟩
  · intro entry member word inside
    obtain ⟨column, among, rfl⟩ := List.mem_map.mp member
    rw [List.mem_singleton.mp inside]
    exact fixed .column (by decide) column among
  · intro entry member word inside
    split at member
    · cases member
    · rename_i visible
      rw [List.mem_singleton.mp member] at inside
      rw [List.mem_singleton.mp inside]
      exact κ.append key (fixes_parenthesized
        (fixed .primaryKey (by decide) _ (mem_unlessEmpty visible)))
  · intro entry member word inside
    obtain ⟨text, among, rfl⟩ := List.mem_map.mp member
    rcases List.mem_cons.mp inside with rfl | last
    · exact named
    · rw [List.mem_singleton.mp last]
      exact fixed .constraint (by decide) text among
  · intro entry member word inside
    obtain ⟨text, among, rfl⟩ := List.mem_map.mp member
    rw [List.mem_singleton.mp inside]
    exact κ.append foreign (fixes_parenthesized (fixed .foreignKey (by decide) text among))

theorem createTableOutline {frame : Frame} {body : CreateTableBody}
    (framed : frame.IsValid Kind.createTable.clauses) (valid : body.IsValid)
    (raw : ∀ text ∈ frame.texts, κ.Fixes text)
    (fixed : ∀ clause ∈ Kind.createTable.clauses, ∀ text ∈ body.stored clause, κ.Fixes text) :
    List.Forall₂ κ.Segments (body.outline frame) (body.outline frame) := by
  simp only [CreateTableBody.outline, List.forall₂_cons]
  refine ⟨.clause _ (.single ?_ (fixed .createTable (by decide))),
    .free (.parameters (groups framed valid raw fixed)), .nil⟩
  split <;> exact κ.keyword (by decide)

theorem dropOutline (frame : Frame) {body : DropBody} {clause : Clause} {word : Text}
    (fixed : ∀ text ∈ body.names, κ.Fixes text) (plain : word.IsKeyword) :
    List.Forall₂ κ.Segments (body.outline frame clause word) (body.outline frame clause word) := by
  have keyword : κ.Fixes (if body.ifExists then word ++ " IF EXISTS".toList else word) := by
    split
    · exact κ.append (κ.keyword plain) (κ.keyword (by decide))
    · exact κ.keyword plain
  rw [DropBody.outline]
  split
  · exact .cons (.clause _ (.list keyword fixed)) .nil
  · refine .cons (.clause _ (.single keyword ?_)) .nil
    intro text member
    rw [unlessEmpty] at member
    split at member
    · cases member
    · rename_i visible
      rw [List.mem_singleton.mp member]
      cases last : body.names.getLast? with
      | none =>
          rw [last] at visible
          exact absurd rfl visible
      | some name => exact fixed name (List.mem_of_getLast? last)

theorem createIndexOutline {body : CreateIndexBody}
    (fixed : ∀ clause ∈ Kind.createIndex.clauses, ∀ text ∈ body.stored clause, κ.Fixes text) :
    List.Forall₂ κ.Segments body.outline body.outline := by
  have conditions : ∀ condition ∈ body.conditions, κ.Fixes condition.2 := fun condition member =>
    fixed .whereClause (by decide) _ (List.mem_map_of_mem member)
  have keyword : ∀ words : List Text, (∀ word ∈ words, word.IsKeyword) →
      ∀ word ∈ words, κ.Fixes word := fun words plain word member => κ.keyword (plain word member)
  have head : ∀ word ∈ body.head, κ.Fixes word := by
    rw [CreateIndexBody.head]
    split
    · exact nofun
    · simp only [List.forall_mem_append]
      refine ⟨⟨⟨⟨⟨keyword _ (by decide), ?_⟩, keyword _ (by decide)⟩, ?_⟩, ?_⟩, ?_⟩
      · split <;> exact keyword _ (by decide)
      · split <;> exact keyword _ (by decide)
      · split <;> exact keyword _ (by decide)
      · exact fixed .createIndex (by decide)
  have table : ∀ word ∈ body.tableWords, κ.Fixes word := by
    rw [CreateIndexBody.tableWords]
    split
    · exact nofun
    · rename_i visible
      have name := fixed .onClause (by decide) _ (mem_unlessEmpty visible)
      split
      · simp only [List.forall_mem_cons]
        exact ⟨κ.keyword (by decide), κ.keyword (by decide), name, nofun⟩
      · simp only [List.forall_mem_cons]
        exact ⟨κ.keyword (by decide), name, nofun⟩
  simp only [CreateIndexBody.outline, List.forall₂_cons]
  exact ⟨.clause _ (.words head), .clause _ (.words table),
    .clause _ (.single (κ.keyword (by decide)) (fixed .usingClause (by decide))),
    .clause _ (.enclosed nil (fixed .column (by decide))),
    .clause _ (.enclosed (κ.keyword (by decide)) (fixed .includeClause (by decide))),
    .clause _ (.conditions (κ.keyword (by decide)) conditions), .nil⟩

theorem alterTableOutline {body : AlterTableBody}
    (fixed : ∀ clause ∈ Kind.alterTable.clauses, ∀ text ∈ body.stored clause, κ.Fixes text) :
    List.Forall₂ κ.Segments body.outline body.outline := by
  simp only [AlterTableBody.outline, List.forall₂_cons]
  refine ⟨.clause _ (.single (κ.keyword (by decide)) (fixed .alterTable (by decide))),
    .clause _ (.single (κ.keyword (by decide)) (fixed .renameTo (by decide))),
    .clause _ (.actions ?_), .nil⟩
  intro entry member
  obtain ⟨⟨action, text⟩, among, rfl⟩ := List.mem_map.mp member
  have word : κ.Fixes action.word := by
    cases action <;> exact κ.keyword (by decide)
  exact ⟨word, fixed .actions (by decide) _ (List.mem_map_of_mem among)⟩

theorem command (layouts : κ.layouts f g) {order : Command} (fixed : κ.Fixes order.argument) :
    κ.texts (order.render f) (order.render g) := by
  have word : κ.Fixes order.kind.word := by
    cases order.kind <;> exact κ.keyword (by decide)
  rw [Command.render, Command.render]
  split
  · exact word
  · exact κ.append (κ.append word (κ.space layouts)) fixed

theorem commandSegments (layouts : κ.layouts f g) (frame : Frame) (gate : Option Feature)
    (kind : CommandKind) {argument : Option Text} (fixed : ∀ text ∈ argument, κ.Fixes text) :
    List.Forall₂ κ.Segments (frame.commandSegments f gate kind argument)
      (frame.commandSegments g gate kind argument) := by
  cases argument with
  | none => exact .nil
  | some text =>
      simp only [Frame.commandSegments]
      split
      · exact .cons (.free (.command (command layouts (fixed text rfl)))) .nil
      · exact .nil

theorem transactionOutline (layouts : κ.layouts f g) (frame : Frame) {body : TransactionBody}
    {first second : List Text} (fixed : ∀ text ∈ body.texts, κ.Fixes text)
    (entries : List.Forall₂ κ.texts first second) :
    List.Forall₂ κ.Segments (body.outline f frame first) (body.outline g frame second) := by
  have argument : ∀ given ∈ [body.beginMode, body.startMode, body.setMode, body.commitArgument,
      body.endArgument], ∀ text ∈ given, κ.Fixes text := by
    intro given among text member
    refine fixed text (List.mem_filterMap.mpr ⟨given, among, member⟩)
  have commands : List.Forall₂ κ.Segments (first.map fun text => .free (.command text))
      (second.map fun text => .free (.command text)) := by
    rw [List.forall₂_map_left_iff, List.forall₂_map_right_iff]
    exact entries.imp fun _ _ related => .free (.command related)
  simp only [List.forall_mem_cons] at argument
  obtain ⟨begins, starts, sets, commits, ends, -⟩ := argument
  have opening := List.rel_append (List.rel_append
    (commandSegments layouts frame (some .beginEnd) .begin begins)
    (commandSegments layouts frame (some .startTransaction) .startTransaction starts))
    (commandSegments layouts frame (some .setTransaction) .setTransaction sets)
  exact List.rel_append (List.rel_append (List.rel_append opening commands)
    (commandSegments layouts frame none .commit commits))
    (commandSegments layouts frame (some .beginEnd) .finish ends)

end Outlines

/-! ## Set operations -/

section Combinations

variable {κ : Correspondence} {f g : Layout} {α : Type} [DecidableEq α]

variable (κ) in
/-- Operands correspond when they belong to the same key. -/
def Keyed (first second : α × Text) : Prop := first.1 = second.1 ∧ κ.texts first.2 second.2

variable (κ) in
/-- What set operations are written with corresponds to itself. -/
structure FixesCombination (combination : Combination α) : Prop where
  keyword : ∀ key, κ.Fixes (combination.keyword key)
  before : ∀ key, ∀ text ∈ combination.before key, κ.Fixes text
  after : ∀ key, ∀ text ∈ combination.after key, κ.Fixes text

variable (layouts : κ.layouts f g)
include layouts

theorem combined {keyword a b c d : Text} (word : κ.Fixes keyword) (left : κ.texts a b)
    (right : κ.texts c d) (leftEmpty : a = [] ↔ b = []) (rightEmpty : c = [] ↔ d = []) :
    κ.texts (f.combined keyword a c) (g.combined keyword b d) := by
  rw [Layout.combined, Layout.combined]
  by_cases noLeft : a = []
  · rw [if_pos noLeft, if_pos (leftEmpty.mp noLeft)]
    exact terminated layouts right rightEmpty
  · rw [if_neg noLeft, if_neg fun isEmpty => noLeft (leftEmpty.mpr isEmpty)]
    by_cases noRight : c = []
    · rw [if_pos noRight, if_pos (rightEmpty.mp noRight)]
      exact terminated layouts left leftEmpty
    · rw [if_neg noRight, if_neg fun isEmpty => noRight (rightEmpty.mpr isEmpty)]
      have front := κ.append (κ.append (κ.enclosed left (terminator layouts)) word)
        (κ.space layouts)
      have back := κ.enclosed right (terminator layouts)
      simpa only [List.append_assoc, List.cons_append] using κ.append front back

variable {combination : Combination α} (fixed : κ.FixesCombination combination)
include fixed

theorem combinationStep (seen later : List α) {a b c d : Text} (key : α)
    (text : κ.texts a b) (operand : κ.texts c d) :
    κ.texts (combination.step f seen later a key c) (combination.step g seen later b key d) := by
  have left : κ.texts (combination.leftSide f seen a key) (combination.leftSide g seen b key) ∧
      (combination.leftSide f seen a key = [] ↔ combination.leftSide g seen b key = []) := by
    simp only [Combination.leftSide]
    split
    · exact ⟨κ.trim text, κ.trim_eq_nil text⟩
    · have whole := κ.append (κ.append (κ.trim text) (κ.space layouts))
        (join_self (κ.space layouts) (fixed.before key))
      exact ⟨κ.trim whole, κ.trim_eq_nil whole⟩
  have both := combined layouts (fixed.keyword key) left.1 (κ.trim operand) left.2
    (κ.trim_eq_nil operand)
  simp only [Combination.step]
  split
  · exact both
  · exact κ.append both (rawText layouts (fixed.after key))

theorem combinationApply {seen : List α} {a b : Text} {first second : List (α × Text)}
    (text : κ.texts a b) (operations : List.Forall₂ κ.Keyed first second) :
    κ.texts (combination.apply f seen a first) (combination.apply g seen b second) := by
  induction operations generalizing seen a b with
  | nil => exact text
  | @cons head head' rest rest' related tail ih =>
      obtain ⟨key, operand⟩ := head
      obtain ⟨key', operand'⟩ := head'
      obtain ⟨same, operands⟩ := related
      simp only at same operands
      subst same
      have keys : rest.map Prod.fst = rest'.map Prod.fst := by
        rw [← List.forall₂_eq_eq_eq, List.forall₂_map_left_iff, List.forall₂_map_right_iff]
        exact tail.imp fun _ _ keyed => keyed.1
      rw [Combination.apply, Combination.apply, keys]
      exact ih (combinationStep layouts fixed seen _ key text operands)

theorem combinationRender (keys : List α) {a b : Text} {first second : List (α × Text)}
    (text : κ.texts a b) (operations : List.Forall₂ κ.Keyed first second) :
    κ.texts (combination.render f keys a first) (combination.render g keys b second) := by
  have used : first.map Prod.fst = second.map Prod.fst := by
    rw [← List.forall₂_eq_eq_eq, List.forall₂_map_left_iff, List.forall₂_map_right_iff]
    exact operations.imp fun _ _ keyed => keyed.1
  rw [Combination.render, Combination.render, used]
  refine κ.append (combinationApply layouts fixed text operations) ?_
  induction keys with
  | nil => exact nil
  | cons key rest ih =>
      rw [List.flatMap_cons, List.flatMap_cons]
      refine κ.append ?_ ih
      rw [Combination.unused, Combination.unused]
      split
      · exact nil
      · exact wrapped layouts (fixed.before key) nil (fixed.after key)

end Combinations

theorem frameCombination {frame : Frame} (fixed : ∀ text ∈ frame.texts, κ.Fixes text) :
    κ.FixesCombination frame.combination where
  keyword operation := by
    have word : κ.Fixes operation.word := by
      cases operation <;> exact κ.keyword (by decide)
    exact word
  before operation := Frame.fits_before fixed operation.clause
  after operation := Frame.fits_after fixed operation.clause

/-! ## Statements -/

/-- Of a statement that is valid to any depth, and whose texts correspond to themselves, the
renderings in corresponding layouts correspond. -/
theorem written {statement : Statement}
    (valid : statement.Everywhere fun other =>
      other.IsValid ∧ ∀ text ∈ other.texts, κ.Fixes text)
    (layouts : κ.layouts f g) : κ.texts (statement.written f) (statement.written g) := by
  induction valid generalizing f g with
  | @intro statement here inside ih =>
      obtain ⟨valid, fixed⟩ := here
      have operand : ∀ {f g : Layout}, κ.layouts f g → ∀ operand ∈ statement.operands,
          κ.texts (operandText f operand) (operandText g operand) := by
        intro f g layouts operand member
        have own := Statement.fits_operand fixed operand member
        cases operand with
        | statement inner =>
            rw [operandText, operandText]
            exact κ.trimEnd (ih inner member layouts)
        | command order =>
            rw [operandText, operandText]
            exact command layouts (own _ List.mem_cons_self)
        | fixed content =>
            rw [operandText, operandText]
            exact own _ List.mem_cons_self
      have queries : (∀ query ∈ statement.queries, query.2 ∈ statement.operands) →
          List.Forall₂ κ.Named (queryTexts f.nested statement.queries)
            (queryTexts g.nested statement.queries) := by
        intro among
        rw [queryTexts_eq_map, queryTexts_eq_map, List.forall₂_map_left_iff,
          List.forall₂_map_right_iff]
        exact List.forall₂_same.mpr fun query member =>
          ⟨rfl, Statement.fits_name fixed query member,
            operand (κ.nested layouts) query.2 (among query member)⟩
      have raw := Statement.fits_frame fixed
      have stored := Statement.fits_stored fixed
      cases statement with
      | select own body withQueries operations =>
          have named := queries fun query member =>
            List.mem_append_left _ (List.mem_map_of_mem member)
          have keyed : List.Forall₂ κ.Keyed (operationTexts f operations)
              (operationTexts g operations) := by
            rw [operationTexts_eq_map, operationTexts_eq_map, List.forall₂_map_left_iff,
              List.forall₂_map_right_iff]
            exact List.forall₂_same.mpr fun operation member =>
              ⟨rfl, operand layouts operation.2
                (List.mem_append_right _ (List.mem_map_of_mem member))⟩
          have clauses := frame layouts .select raw (selectOutline stored named)
          rw [Statement.written, Statement.written, SelectBody.render, SelectBody.render]
          split
          · exact combinationRender layouts (frameCombination raw) _ clauses keyed
          · exact clauses
      | insert own body withQueries source =>
          have named := queries fun query member =>
            List.mem_append_left _ (List.mem_map_of_mem member)
          have sources : κ.texts (sourceText f source) (sourceText g source) := by
            cases source with
            | none => exact nil
            | some inner =>
                rw [sourceText, sourceText]
                refine κ.trimEnd (ih inner ?_ layouts)
                exact List.mem_append_right _ List.mem_cons_self
          rw [Statement.written, Statement.written]
          exact frame layouts .insert raw (insertOutline stored named sources)
      | update own body withQueries =>
          have named := queries fun query member => List.mem_map_of_mem member
          rw [Statement.written, Statement.written]
          exact frame layouts .update raw (updateOutline stored named)
      | delete own body withQueries =>
          have named := queries fun query member => List.mem_map_of_mem member
          rw [Statement.written, Statement.written]
          exact frame layouts .delete raw (deleteOutline stored named)
      | values own body =>
          rw [Statement.written, Statement.written]
          exact frame layouts .values raw (valuesOutline stored)
      | createTable own body =>
          rw [Statement.written, Statement.written]
          exact frame layouts .createTable raw
            (createTableOutline valid.frame valid.body raw stored)
      | dropTable own body =>
          rw [Statement.written, Statement.written]
          exact frame layouts .dropTable raw
            (dropOutline own (stored .dropTable List.mem_cons_self) (by decide))
      | dropIndex own body =>
          rw [Statement.written, Statement.written]
          exact frame layouts .dropIndex raw
            (dropOutline own (stored .dropIndex List.mem_cons_self) (by decide))
      | createIndex own body =>
          rw [Statement.written, Statement.written]
          exact frame layouts .createIndex raw (createIndexOutline stored)
      | alterTable own body =>
          rw [Statement.written, Statement.written]
          exact frame layouts .alterTable raw (alterTableOutline stored)
      | transaction own body entries =>
          have texts : List.Forall₂ κ.texts (entryTexts f entries) (entryTexts g entries) := by
            rw [entryTexts_eq_map, entryTexts_eq_map, List.forall₂_map_left_iff,
              List.forall₂_map_right_iff]
            exact List.forall₂_same.mpr fun entry member => operand layouts entry member
          rw [Statement.written, Statement.written]
          exact frame layouts .transaction raw
            (transactionOutline layouts own (Statement.fits_commandArguments fixed) texts)

/-- What comes about is written as corresponding texts in corresponding layouts, if all its texts
correspond to themselves. -/
theorem statement {statement : Statement} (reachable : statement.Reachable)
    (fixed : statement.EveryText κ.Fixes) (layouts : κ.layouts f g) :
    κ.texts (statement.render f) (statement.render g) :=
  κ.trimEnd (written (reachable.isValid.and fixed) layouts)

end Correspondence
end SqlText
