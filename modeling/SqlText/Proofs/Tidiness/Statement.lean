import SqlText.Proofs.Origin
import SqlText.Proofs.Tidiness.Part
import SqlText.Proofs.Transactions

/-!
# Statements on one line are tidy

If the texts that are stored in a statement are tidy, at whatever depth, and its common table
expressions have names, then its text on one line is tidy, too: it neither starts nor ends with a
blank character, and there are no two of them next to each other. Which clauses there are does not
matter, nor does what is left out because it is blank. A blank character that is no space comes from
a stored text (`Statement.Reachable.isTidy_text`).

Each outline is made of neat texts, so its parts are settled one after another. By induction on the
statements inside, the texts of operands are tidy, and a part trims them before it writes them.
-/

set_option autoImplicit false

namespace SqlText

open Text

/-! ## Outlines -/

section Outlines

open SqlText.Part (isNeat_single isNeat_flag isNeat_targetPart)

theorem SelectBody.isNeat_outline {body : SelectBody} {queries : List (Text × Text)}
    (neat : ∀ clause ∈ Kind.select.clauses, ∀ text ∈ body.stored clause, IsNeat text)
    (named : ∀ query ∈ queries, IsNeat query.1 ∧ IsSpaced query.2) :
    ∀ segment ∈ body.outline queries, segment.part.IsNeat := by
  have conditions : ∀ condition ∈ body.conditions, IsNeat condition.2 := fun condition member =>
    neat .whereClause (by decide) _ (List.mem_map_of_mem member)
  have groupConditions : ∀ condition ∈ body.groupConditions, IsNeat condition.2 :=
    fun condition member => neat .having (by decide) _ (List.mem_map_of_mem member)
  simp only [outline, List.forall_mem_cons]
  exact ⟨named, ⟨isNeat_word (by decide), neat .select (by decide)⟩,
    ⟨isNeat_word (by decide), neat .fromClause (by decide)⟩, neat .join (by decide),
    ⟨isNeat_word (by decide), conditions⟩,
    ⟨isNeat_word (by decide), neat .groupBy (by decide)⟩,
    ⟨isNeat_word (by decide), groupConditions⟩,
    ⟨isNeat_word (by decide), neat .window (by decide)⟩,
    ⟨isNeat_word (by decide), neat .orderBy (by decide)⟩,
    isNeat_single (isNeat_word (by decide)) (neat .limit (by decide)),
    isNeat_single (isNeat_word (by decide)) (neat .offset (by decide)), List.forall_mem_nil _⟩

theorem InsertBody.isNeat_outline {body : InsertBody} {queries : List (Text × Text)}
    {source : Text}
    (neat : ∀ clause ∈ Kind.insert.clauses, ∀ text ∈ body.stored clause, IsNeat text)
    (named : ∀ query ∈ queries, IsNeat query.1 ∧ IsSpaced query.2) (inside : IsSpaced source) :
    ∀ segment ∈ body.outline queries source, segment.part.IsNeat := by
  simp only [outline, List.forall_mem_cons]
  exact ⟨named, isNeat_targetPart (isNeat_word (by decide)) (neat .insertInto (by decide)),
    isNeat_targetPart (isNeat_word (by decide)) (neat .insertOr (by decide)),
    isNeat_targetPart (isNeat_word (by decide)) (neat .replaceInto (by decide)),
    isNeat_single (isNeat_word (by decide)) (neat .overriding (by decide)),
    ⟨isNeat_word (by decide), neat .values (by decide)⟩,
    isNeat_flag (isNeat_word (by decide)) _, inside,
    isNeat_single (isNeat_word (by decide)) (neat .onConflict (by decide)),
    ⟨isNeat_word (by decide), neat .returning (by decide)⟩, List.forall_mem_nil _⟩

theorem UpdateBody.isNeat_outline {body : UpdateBody} {queries : List (Text × Text)}
    (neat : ∀ clause ∈ Kind.update.clauses, ∀ text ∈ body.stored clause, IsNeat text)
    (named : ∀ query ∈ queries, IsNeat query.1 ∧ IsSpaced query.2) :
    ∀ segment ∈ body.outline queries, segment.part.IsNeat := by
  have conditions : ∀ condition ∈ body.conditions, IsNeat condition.2 := fun condition member =>
    neat .whereClause (by decide) _ (List.mem_map_of_mem member)
  simp only [outline, List.forall_mem_cons]
  exact ⟨named, isNeat_targetPart (isNeat_word (by decide)) (neat .update (by decide)),
    isNeat_targetPart (isNeat_word (by decide)) (neat .updateOr (by decide)),
    ⟨isNeat_word (by decide), neat .set (by decide)⟩,
    ⟨isNeat_word (by decide), neat .fromClause (by decide)⟩, neat .join (by decide),
    ⟨isNeat_word (by decide), conditions⟩,
    ⟨isNeat_word (by decide), neat .returning (by decide)⟩, List.forall_mem_nil _⟩

theorem DeleteBody.isNeat_outline {body : DeleteBody} {queries : List (Text × Text)}
    (neat : ∀ clause ∈ Kind.delete.clauses, ∀ text ∈ body.stored clause, IsNeat text)
    (named : ∀ query ∈ queries, IsNeat query.1 ∧ IsSpaced query.2) :
    ∀ segment ∈ body.outline queries, segment.part.IsNeat := by
  have conditions : ∀ condition ∈ body.conditions, IsNeat condition.2 := fun condition member =>
    neat .whereClause (by decide) _ (List.mem_map_of_mem member)
  simp only [outline, List.forall_mem_cons]
  exact ⟨named, isNeat_single (isNeat_word (by decide)) (neat .deleteFrom (by decide)),
    ⟨by decide, neat .partition (by decide)⟩, ⟨isNeat_word (by decide), conditions⟩,
    ⟨isNeat_word (by decide), neat .orderBy (by decide)⟩,
    isNeat_single (isNeat_word (by decide)) (neat .limit (by decide)),
    ⟨isNeat_word (by decide), neat .returning (by decide)⟩, List.forall_mem_nil _⟩

theorem ValuesBody.isNeat_outline {body : ValuesBody}
    (neat : ∀ clause ∈ Kind.values.clauses, ∀ text ∈ body.stored clause, IsNeat text) :
    ∀ segment ∈ body.outline, segment.part.IsNeat := by
  simp only [outline, List.forall_mem_cons]
  exact ⟨⟨isNeat_word (by decide), neat .values (by decide)⟩, List.forall_mem_nil _⟩

theorem CreateTableBody.isNeat_groups {frame : Frame} {body : CreateTableBody}
    (framed : frame.IsNeat)
    (neat : ∀ clause ∈ Kind.createTable.clauses, ∀ text ∈ body.stored clause, IsNeat text) :
    ∀ group ∈ body.groups frame, group.IsNeat := by
  have around (clause : Clause) {entries : List (List Text)}
      (words : ∀ entry ∈ entries, entry ≠ [] ∧ ∀ word ∈ entry, IsNeat word) :
      ParameterGroup.IsNeat ⟨frame.before.get clause, entries, frame.after.get clause⟩ :=
    ⟨framed.before clause, words, framed.after clause⟩
  have key : IsNeat "PRIMARY KEY".toList := isNeat_word (by decide)
  have foreign : IsNeat "FOREIGN KEY".toList := isNeat_word (by decide)
  have named : IsNeat "CONSTRAINT".toList := isNeat_word (by decide)
  simp only [groups, List.forall_mem_cons]
  refine ⟨around _ ?_, around _ ?_, around _ ?_, around _ ?_, List.forall_mem_nil _⟩
  · intro entry member
    obtain ⟨column, among, rfl⟩ := List.mem_map.mp member
    exact ⟨List.cons_ne_nil _ _,
      List.forall_mem_singleton.mpr (neat .column (by decide) column among)⟩
  · intro entry member
    split at member
    · cases member
    · rename_i nonempty
      rw [List.mem_singleton.mp member]
      have columns := neat .primaryKey (by decide) body.primaryKey (mem_unlessEmpty nonempty)
      exact ⟨List.cons_ne_nil _ _,
        List.forall_mem_singleton.mpr (key.append columns.parenthesized)⟩
  · intro entry member
    obtain ⟨text, among, rfl⟩ := List.mem_map.mp member
    exact ⟨List.cons_ne_nil _ _, List.forall_mem_cons.mpr ⟨named,
      List.forall_mem_singleton.mpr (neat .constraint (by decide) text among)⟩⟩
  · intro entry member
    obtain ⟨text, among, rfl⟩ := List.mem_map.mp member
    have columns := neat .foreignKey (by decide) text among
    exact ⟨List.cons_ne_nil _ _,
      List.forall_mem_singleton.mpr (foreign.append columns.parenthesized)⟩

theorem CreateTableBody.isNeat_outline {frame : Frame} {body : CreateTableBody}
    (framed : frame.IsNeat)
    (neat : ∀ clause ∈ Kind.createTable.clauses, ∀ text ∈ body.stored clause, IsNeat text) :
    ∀ segment ∈ body.outline frame, segment.part.IsNeat := by
  simp only [outline, List.forall_mem_cons]
  refine ⟨isNeat_single ?_ (neat .createTable (by decide)), isNeat_groups framed neat,
    List.forall_mem_nil _⟩
  split <;> exact isNeat_word (by decide)

theorem DropBody.isNeat_outline (frame : Frame) {body : DropBody} (clause : Clause) {word : Text}
    (plain : IsNeat word ∧ IsNeat (word ++ " IF EXISTS".toList))
    (neat : ∀ text ∈ body.names, IsNeat text) :
    ∀ segment ∈ body.outline frame clause word, segment.part.IsNeat := by
  have keyword : IsNeat (if body.ifExists then word ++ " IF EXISTS".toList else word) := by
    split
    · exact plain.2
    · exact plain.1
  rw [outline]
  split
  · exact List.forall_mem_singleton.mpr ⟨keyword, neat⟩
  · refine List.forall_mem_singleton.mpr (isNeat_single keyword fun text member => neat text ?_)
    cases last : body.names.getLast? with
    | none =>
        rw [last] at member
        cases member
    | some name =>
        rw [last, Option.getD_some, unlessEmpty] at member
        split at member
        · cases member
        · rw [List.mem_singleton.mp member]
          exact List.mem_of_getLast? last

theorem CreateIndexBody.isNeat_outline {body : CreateIndexBody}
    (neat : ∀ clause ∈ Kind.createIndex.clauses, ∀ text ∈ body.stored clause, IsNeat text) :
    ∀ segment ∈ body.outline, segment.part.IsNeat := by
  have conditions : ∀ condition ∈ body.conditions, IsNeat condition.2 := fun condition member =>
    neat .whereClause (by decide) _ (List.mem_map_of_mem member)
  have head : ∀ word ∈ body.head, IsNeat word := by
    intro word member
    rcases CreateIndexBody.mem_head member with keyword | ⟨rfl, visible⟩
    · have plain : ∀ other ∈ headWords, IsTidy other ∧ other ≠ [] := by decide
      exact isNeat_word (plain word keyword)
    · exact neat .createIndex (by decide) _ (mem_unlessEmpty visible)
  have table : ∀ word ∈ body.tableWords, IsNeat word := by
    intro word member
    rcases CreateIndexBody.mem_tableWords member with keyword | ⟨rfl, visible⟩
    · have plain : ∀ other ∈ tableKeywords, IsTidy other ∧ other ≠ [] := by decide
      exact isNeat_word (plain word keyword)
    · exact neat .onClause (by decide) _ (mem_unlessEmpty visible)
  simp only [outline, List.forall_mem_cons]
  exact ⟨head, table, isNeat_single (isNeat_word (by decide)) (neat .usingClause (by decide)),
    ⟨isTidy_nil, neat .column (by decide)⟩, ⟨by decide, neat .includeClause (by decide)⟩,
    ⟨isNeat_word (by decide), conditions⟩, List.forall_mem_nil _⟩

theorem AlterTableBody.isNeat_outline {body : AlterTableBody}
    (neat : ∀ clause ∈ Kind.alterTable.clauses, ∀ text ∈ body.stored clause, IsNeat text) :
    ∀ segment ∈ body.outline, segment.part.IsNeat := by
  have actions : ∀ action ∈ body.actions.map fun entry => (entry.1.word, entry.2),
      IsNeat action.1 ∧ IsNeat action.2 := by
    intro action member
    obtain ⟨⟨way, text⟩, among, rfl⟩ := List.mem_map.mp member
    have word : IsNeat way.word := by
      cases way <;> exact isNeat_word (by decide)
    exact ⟨word, neat .actions (by decide) text (List.mem_map_of_mem among)⟩
  simp only [outline, List.forall_mem_cons]
  exact ⟨isNeat_single (isNeat_word (by decide)) (neat .alterTable (by decide)),
    isNeat_single (isNeat_word (by decide)) (neat .renameTo (by decide)), actions,
    List.forall_mem_nil _⟩

end Outlines

/-! ## Commands -/

theorem Command.isNeat_render {layout : Layout} (flat : layout.IsFlat) {command : Command}
    (tidy : IsTidy command.argument) : IsNeat (command.render layout) := by
  have word : IsNeat command.kind.word := by
    cases command.kind <;> exact isNeat_word (by decide)
  rw [render]
  split
  · exact word
  · rename_i nonempty
    exact word.append_between flat.isSpaced_space (tidy.isNeat nonempty)

theorem Frame.isSpaced_of_mem_commandTexts {layout : Layout} (flat : layout.IsFlat) (frame : Frame)
    (kind : CommandKind) {argument : Option Text} (tidy : ∀ text ∈ argument, IsTidy text) :
    ∀ text ∈ frame.commandTexts layout kind argument, IsSpaced text := by
  intro text member
  rw [commandTexts] at member
  split at member
  · obtain ⟨given, held, rfl⟩ := Option.map_eq_some_iff.mp (Option.mem_toList.mp member)
    exact (Command.isNeat_render flat (tidy given held)).spaced
  · cases member

theorem TransactionBody.isNeat_outline {layout : Layout} (flat : layout.IsFlat) (frame : Frame)
    {body : TransactionBody} {entries : List Text} (tidy : ∀ text ∈ body.texts, IsTidy text)
    (inside : ∀ text ∈ entries, IsSpaced text) :
    ∀ segment ∈ body.outline layout frame entries, segment.part.IsNeat := by
  have argument : ∀ given ∈ [body.beginMode, body.startMode, body.setMode, body.commitArgument,
      body.endArgument], ∀ text ∈ given, IsTidy text :=
    fun given among text member => tidy text (List.mem_filterMap.mpr ⟨given, among, member⟩)
  simp only [List.forall_mem_cons] at argument
  obtain ⟨begins, starts, sets, commits, ends, -⟩ := argument
  have single (kind : CommandKind) {argument : Option Text}
      (tidy : ∀ text ∈ argument, IsTidy text) :=
    frame.isSpaced_of_mem_commandTexts flat kind tidy
  rw [outline_eq_map, List.forall_mem_map]
  simp only [commandTexts, List.forall_mem_append]
  exact ⟨⟨⟨⟨⟨single _ begins, single _ starts⟩, single _ sets⟩, inside⟩, single _ commits⟩,
    single _ ends⟩

/-! ## Statements -/

namespace Statement

/-- The statement itself stores tidy texts, and its common table expressions have names. -/
structure StoresTidily (statement : Statement) : Prop where
  valid : statement.IsValid
  texts : ∀ text ∈ statement.texts, IsTidy text
  names : ∀ query ∈ statement.queries, query.1 ≠ []

namespace StoresTidily

variable {statement : Statement} (tidy : statement.StoresTidily)
include tidy

theorem isNeat_stored :
    ∀ clause ∈ statement.kind.clauses, ∀ text ∈ statement.stored clause, IsNeat text :=
  fun clause known text member => ⟨tidy.valid.stored clause text member,
    (fits_stored tidy.texts clause known text member).spaced⟩

theorem isNeat_frame : statement.frame.IsNeat where
  raw text member := ⟨tidy.valid.frame.raw.fragments text member,
    (Frame.fits_raw (fits_frame tidy.texts) text member).spaced⟩
  before clause text member := ⟨tidy.valid.frame.before.isFragment_of_mem_get member,
    (Frame.fits_before (fits_frame tidy.texts) clause text member).spaced⟩
  after clause text member := ⟨tidy.valid.frame.after.isFragment_of_mem_get member,
    (Frame.fits_after (fits_frame tidy.texts) clause text member).spaced⟩

theorem isNeat_name : ∀ query ∈ statement.queries, IsNeat query.1 :=
  fun query member => (fits_name tidy.texts query member).isNeat (tidy.names query member)

theorem isNeat_combination : statement.frame.combination.IsNeat where
  keyword operation := by
    have word : IsNeat operation.word := by
      cases operation <;> exact isNeat_word (by decide)
    exact word
  before operation := tidy.isNeat_frame.before operation.clause
  after operation := tidy.isNeat_frame.after operation.clause

section Inside

variable {layout : Layout} (flat : layout.IsFlat)
  (inside : ∀ inner, Operand.statement inner ∈ statement.operands →
    layout.IsNeatlySettled (inner.written layout))
include flat inside

theorem isSpaced_operandText :
    ∀ operand ∈ statement.operands, IsSpaced (operandText layout operand) := by
  intro operand member
  have own := fits_operand tidy.texts operand member
  cases operand with
  | statement inner => exact ((inside inner member).isTidy_trimEnd flat).spaced
  | command order => exact (Command.isNeat_render flat (own _ List.mem_cons_self)).spaced
  | fixed content => exact (own _ List.mem_cons_self).spaced

theorem isNeat_queryTexts (among : ∀ query ∈ statement.queries, query.2 ∈ statement.operands) :
    ∀ query ∈ queryTexts layout.nested statement.queries, IsNeat query.1 ∧ IsSpaced query.2 := by
  intro query member
  rw [queryTexts_eq_map, flat.nested_eq] at member
  obtain ⟨entry, listed, rfl⟩ := List.mem_map.mp member
  exact ⟨tidy.isNeat_name entry listed,
    tidy.isSpaced_operandText flat inside entry.2 (among entry listed)⟩

end Inside

end StoresTidily

/-- In a flat layout a statement that stores tidy texts, to any depth, is written as a neat text
with the terminator behind it, or as nothing. -/
theorem isNeatlySettled_written {statement : Statement} {layout : Layout} (flat : layout.IsFlat)
    (tidy : statement.Everywhere StoresTidily) :
    layout.IsNeatlySettled (statement.written layout) := by
  -- A flat layout nests as itself, so it stays the same in the induction.
  induction tidy with
  | @intro statement here inside ih =>
      have operand := here.isSpaced_operandText flat ih
      have queries := here.isNeat_queryTexts flat ih
      have framed := here.isNeat_frame
      have stored := here.isNeat_stored
      cases statement with
      | select frame body withQueries operations =>
          have named := queries fun query member =>
            List.mem_append_left _ (List.mem_map_of_mem member)
          have operands : ∀ operation ∈ operationTexts layout operations,
              IsSpaced operation.2 := by
            intro operation member
            rw [operationTexts_eq_map] at member
            obtain ⟨entry, listed, rfl⟩ := List.mem_map.mp member
            exact operand entry.2 (List.mem_append_right _ (List.mem_map_of_mem listed))
          have clauses := Frame.isNeatlySettled_render flat framed .select
            (SelectBody.isNeat_outline stored named)
          rw [written, SelectBody.render]
          split
          · exact Combination.isNeatlySettled_render flat here.isNeat_combination _ clauses operands
          · exact clauses
      | insert frame body withQueries source =>
          have named := queries fun query member =>
            List.mem_append_left _ (List.mem_map_of_mem member)
          have sourced : IsSpaced (sourceText layout source) := by
            cases source with
            | none => exact isSpaced_nil
            | some inner => exact operand _ (List.mem_append_right _ List.mem_cons_self)
          exact Frame.isNeatlySettled_render flat framed .insert
            (InsertBody.isNeat_outline stored named sourced)
      | update frame body withQueries =>
          have named := queries fun query member => List.mem_map_of_mem member
          exact Frame.isNeatlySettled_render flat framed .update
            (UpdateBody.isNeat_outline stored named)
      | delete frame body withQueries =>
          have named := queries fun query member => List.mem_map_of_mem member
          exact Frame.isNeatlySettled_render flat framed .delete
            (DeleteBody.isNeat_outline stored named)
      | values frame body =>
          exact Frame.isNeatlySettled_render flat framed .values (ValuesBody.isNeat_outline stored)
      | createTable frame body =>
          exact Frame.isNeatlySettled_render flat framed .createTable
            (CreateTableBody.isNeat_outline framed stored)
      | dropTable frame body =>
          have plain : IsNeat "DROP TABLE".toList ∧
              IsNeat ("DROP TABLE".toList ++ " IF EXISTS".toList) :=
            ⟨isNeat_word (by decide), isNeat_word (by decide)⟩
          exact Frame.isNeatlySettled_render flat framed .dropTable
            (DropBody.isNeat_outline frame .dropTable plain (stored .dropTable List.mem_cons_self))
      | dropIndex frame body =>
          have plain : IsNeat "DROP INDEX".toList ∧
              IsNeat ("DROP INDEX".toList ++ " IF EXISTS".toList) :=
            ⟨isNeat_word (by decide), isNeat_word (by decide)⟩
          exact Frame.isNeatlySettled_render flat framed .dropIndex
            (DropBody.isNeat_outline frame .dropIndex plain (stored .dropIndex List.mem_cons_self))
      | createIndex frame body =>
          exact Frame.isNeatlySettled_render flat framed .createIndex
            (CreateIndexBody.isNeat_outline stored)
      | alterTable frame body =>
          exact Frame.isNeatlySettled_render flat framed .alterTable
            (AlterTableBody.isNeat_outline stored)
      | transaction frame body entries =>
          have texts : ∀ text ∈ entryTexts layout entries, IsSpaced text := by
            intro text member
            rw [entryTexts_eq_map] at member
            obtain ⟨entry, listed, rfl⟩ := List.mem_map.mp member
            exact operand entry listed
          exact Frame.isNeatlySettled_render flat framed .transaction
            (TransactionBody.isNeat_outline flat frame (fits_commandArguments here.texts) texts)

variable {statement : Statement}

/-- In every flat layout the text of a statement is tidy if all that is stored in it is. -/
theorem Reachable.isTidy_render (reachable : statement.Reachable)
    (tidy : statement.EveryText IsTidy)
    (named : statement.Everywhere fun other => ∀ query ∈ other.queries, query.1 ≠ [])
    {layout : Layout} (flat : layout.IsFlat) : IsTidy (statement.render layout) := by
  have all : statement.Everywhere StoresTidily :=
    ((reachable.isValid.and tidy).and named).mono fun other stores =>
      ⟨stores.1.1, stores.1.2, stores.2⟩
  exact (isNeatlySettled_written flat all).isTidy_trimEnd flat

theorem not_isBlank_of_isUpper {c : Char} (upper : c.isUpper = true) : isBlank c = false := by
  obtain ⟨first, last⟩ : 'A'.val ≤ c.val ∧ c.val ≤ 'Z'.val := of_decide_eq_true upper
  have least : 65 ≤ c.toNat := UInt32.le_iff_toNat_le.mp first
  have most : c.toNat ≤ 90 := UInt32.le_iff_toNat_le.mp last
  simp only [isBlank, inRuns, blankRuns, List.any_cons, List.any_nil, Bool.or_eq_false_iff,
    Bool.and_eq_false_iff, decide_eq_false_iff_not, and_true]
  omega

/-- The only blank character that a rendering writes of its own accord is the space. -/
theorem not_isStructural_of_isBlank {c : Char} (blank : isBlank c = true) (other : c ≠ ' ') :
    ¬IsStructural c := by
  rintro (upper | rfl | rfl | rfl | rfl)
  · rw [not_isBlank_of_isUpper upper] at blank
    cases blank
  · exact other rfl
  all_goals exact absurd blank (by decide)

/-- The text of a statement on one line neither starts nor ends with a blank character and has no
two of them next to each other, if this is so for all texts that are stored in it, to any depth, and
its common table expressions have names. A blank character that is no space is one of a stored
text. -/
theorem Reachable.isTidy_text (reachable : statement.Reachable)
    (tidy : statement.EveryText IsTidy)
    (named : statement.Everywhere fun other => ∀ query ∈ other.queries, query.1 ≠ []) :
    statement.text.IsTidy ∧ ∀ c ∈ statement.text, isBlank c = true → c ≠ ' ' →
      ∃ text, statement.Stores text ∧ c ∈ text := by
  refine ⟨reachable.isTidy_render tidy named Layout.isFlat_compact, fun c member blank other => ?_⟩
  have lacks : Layout.compact.Lacks c := by
    have separator : c ∉ ", ".toList := by
      intro inside
      rcases List.mem_cons.mp inside with rfl | last
      · exact absurd blank (by decide)
      · exact other (List.mem_singleton.mp last)
    exact ⟨separator, nofun, nofun, fun inside => other (List.mem_singleton.mp inside)⟩
  exact reachable.exists_stores_of_mem_render (not_isStructural_of_isBlank blank other) lacks member

/-- A column with a tab in it. -/
def tabbed : Statement :=
  select { dialect := .generic } { columns := ["a\tAS b".toList] } [] []

/-- A column of a common table expression in which there is a tab. -/
def selectedTabbed : Statement :=
  select { dialect := .generic } { columns := ["b".toList] } [("c".toList, .statement tabbed)] []

theorem reachable_selectedTabbed : selectedTabbed.Reachable := by
  have inner : Request.create ⟨.select, [.value (.text "a\tAS b".toList)], .dialect .generic, []⟩
      .builtIn = .ok tabbed := rfl
  have outer : Request.create ⟨.select, [.value (.text "b".toList)], .dialect .generic, []⟩
      .builtIn = .ok (select { dialect := .generic } { columns := ["b".toList] } [] []) := rfl
  have named : (select { dialect := .generic } { columns := ["b".toList] } [] []).call
      "with_".toList [.value (.text "c".toList), .statement tabbed] = .ok selectedTabbed := rfl
  refine Reachable.call (.created outer) ?_ (fun statement member => ?_) named
  · simp
  · obtain rfl : statement = tabbed := by simpa using member
    exact .created inner

theorem isTidy_text_selectedTabbed :
    selectedTabbed.text = "WITH c AS (SELECT a\tAS b) SELECT b".toList ∧
      selectedTabbed.text.IsTidy ∧ ∃ text, selectedTabbed.Stores text ∧ '\t' ∈ text := by
  have written : selectedTabbed.text = "WITH c AS (SELECT a\tAS b) SELECT b".toList := by decide
  have everywhere {holds : Statement → Prop} (outer : holds selectedTabbed)
      (inner : holds tabbed) : selectedTabbed.Everywhere holds := by
    refine .intro outer fun statement member => ?_
    obtain rfl : statement = tabbed := by simpa [selectedTabbed, operands] using member
    exact .intro inner fun _ member => by cases member
  have tidy : selectedTabbed.EveryText IsTidy := everywhere (by decide) (by decide)
  obtain ⟨neat, origin⟩ := reachable_selectedTabbed.isTidy_text tidy
    (everywhere (by decide) (by decide))
  refine ⟨written, neat, origin '\t' ?_ (by decide) (by decide)⟩
  rw [written]
  decide

end Statement

end SqlText
