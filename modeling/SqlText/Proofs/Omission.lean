import Mathlib.Logic.Relation
import SqlText.Proofs.Combining
import SqlText.Proofs.Ending

/-!
# What is blank leaves no trace

Something can be put inside a statement that is written as blank characters only, such as a SELECT
without clauses. The statement around it is then written as if it were not there
(`Statement.Reachable.render_of_omits`): without a name and parentheses among the common table
expressions, without the keyword of a set operation, and without a semicolon in a script.

In three of the four places this is so because what is written there is trimmed and left out if
nothing remains. A set operation does more: even if its operand is blank, it trims the text before
it, and it counts as the first or the last one of its kind. The former changes nothing because the
text before it is a fragment with the terminator behind it, whatever operations have led to it
(`Combination.isSettled_step`); the latter does not matter as long as there is no raw text around
its kind.
-/

set_option autoImplicit false

namespace SqlText

open Text

/-! ## Set operations -/

/-- Two trimmed sides are combined to a fragment with the terminator behind it, or to nothing. -/
theorem Layout.isSettled_combined (layout : Layout) (keyword left right : Text) :
    layout.IsSettled (layout.combined keyword left.trim right.trim) := by
  rw [Layout.combined]
  split
  · exact layout.isSettled_terminated_trim right
  · split
    · exact layout.isSettled_terminated_trim left
    · have whole := isFragment_enclosed (left.trim ++ ')' :: layout.terminator ++ keyword ++
        layout.space ++ '(' :: right.trim)
      simpa only [List.append_assoc, List.cons_append, List.nil_append] using
        layout.isSettled_of_isFragment whole

/-- With nothing on its right side an operation leaves its left side. -/
theorem Layout.combined_nil (layout : Layout) (keyword left : Text) :
    layout.combined keyword left [] = layout.terminated left := by
  rw [combined, if_pos rfl]
  split
  · rename_i isEmpty
    rw [isEmpty]
  · rfl

namespace Combination

variable {κ : Type} [DecidableEq κ] (combination : Combination κ) {layout : Layout}

theorem exists_leftSide_eq_trim (layout : Layout) (seen : List κ) (text : Text) (key : κ) :
    ∃ whole : Text, combination.leftSide layout seen text key = whole.trim := by
  rw [leftSide]
  split
  · exact ⟨text, rfl⟩
  · exact ⟨_, rfl⟩

/-- After every operation there is a fragment with the terminator behind it, or nothing. -/
theorem isSettled_step {combination : Combination κ} (kept : combination.IsKept) (layout : Layout)
    (seen later : List κ) (text : Text) (key : κ) (operand : Text) :
    layout.IsSettled (combination.step layout seen later text key operand) := by
  obtain ⟨whole, left⟩ := combination.exists_leftSide_eq_trim layout seen text key
  have combined := layout.isSettled_combined (combination.keyword key) whole operand
  rw [step, left]
  split
  · exact combined
  · exact combined.append (layout.isSettled_rawText (kept.after key))

/-! ### Kinds without raw text -/

/-- There is no raw text around the kind. -/
structure IsBare (key : κ) : Prop where
  before : combination.before key = []
  after : combination.after key = []

variable {combination}

/-- What follows an operation only matters if there is raw text after its kind. -/
theorem step_congr {later others : List κ} {key : κ}
    (same : combination.after key ≠ [] → (key ∈ later ↔ key ∈ others)) (seen : List κ)
    (text operand : Text) :
    combination.step layout seen later text key operand =
      combination.step layout seen others text key operand := by
  rw [step, step]
  by_cases bare : combination.after key = []
  · have isEmpty : layout.rawText (combination.after key) = [] := by
      rw [bare]
      rfl
    simp only [isEmpty, List.append_nil, ite_self]
  · simp only [same bare]

section

variable (space : AllBlank layout.space)
include space

theorem leftSide_of_before_eq_nil {key : κ} (bare : combination.before key = []) (seen : List κ)
    (text : Text) : combination.leftSide layout seen text key = text.trim := by
  rw [leftSide, bare]
  split
  · rfl
  · rw [join, List.intercalate_nil, List.append_nil, trim_append_right space, trim_trim]

/-- What goes before an operation only matters if there is raw text before its kind. -/
theorem leftSide_congr {seen others : List κ} {key : κ}
    (same : combination.before key ≠ [] → (key ∈ seen ↔ key ∈ others)) (text : Text) :
    combination.leftSide layout seen text key = combination.leftSide layout others text key := by
  by_cases bare : combination.before key = []
  · rw [leftSide_of_before_eq_nil space bare, leftSide_of_before_eq_nil space bare]
  · simp only [leftSide, same bare]

theorem apply_congr {seen others : List κ}
    (same : ∀ key, combination.before key ≠ [] → (key ∈ seen ↔ key ∈ others)) (text : Text)
    (operations : List (κ × Text)) :
    combination.apply layout seen text operations =
      combination.apply layout others text operations := by
  induction operations generalizing seen others text with
  | nil => rfl
  | cons first rest ih =>
      obtain ⟨key, operand⟩ := first
      have left := leftSide_congr space (same key) text
      rw [apply, apply, step, step, left]
      refine ih (fun other raw => ?_) _
      rw [List.mem_cons, List.mem_cons, same other raw]

/-- A blank operand of a kind without raw text only trims the text before it. -/
theorem step_of_isBare {key : κ} (bare : combination.IsBare key) {operand : Text}
    (blank : operand.trim = []) (seen later : List κ) (text : Text) :
    combination.step layout seen later text key operand = layout.terminated text.trim := by
  have isEmpty : layout.rawText (combination.after key) = [] := by
    rw [bare.after]
    rfl
  rw [step, leftSide_of_before_eq_nil space bare.before, blank, Layout.combined_nil, isEmpty,
    List.append_nil, ite_self]

/-! ### Blank operands -/

variable (lineBreak : AllBlank layout.lineBreak)
include lineBreak

/-- A blank operand of a kind without raw text can be left out, wherever it stands among the
others. -/
theorem apply_omit (kept : combination.IsKept) {key : κ} (bare : combination.IsBare key)
    {operand : Text} (blank : operand.trim = []) {text : Text} (settled : layout.IsSettled text)
    (seen : List κ) (earlier later : List (κ × Text)) :
    combination.apply layout seen text (earlier ++ (key, operand) :: later) =
      combination.apply layout seen text (earlier ++ later) := by
  induction earlier generalizing seen text with
  | nil =>
      rw [List.nil_append, List.nil_append, apply, step_of_isBare space bare blank,
        settled.terminated_trim space lineBreak]
      refine apply_congr space (fun other raw => ?_) text later
      have apart : other ≠ key := fun same => raw (same ▸ bare.before)
      rw [List.mem_cons, or_iff_right apart]
  | cons first rest ih =>
      obtain ⟨other, before⟩ := first
      have follow : combination.after other ≠ [] →
          (other ∈ (rest ++ (key, operand) :: later).map Prod.fst ↔
            other ∈ (rest ++ later).map Prod.fst) := by
        intro raw
        have apart : other ≠ key := fun same => raw (same ▸ bare.after)
        simp only [List.map_append, List.map_cons, List.mem_append, List.mem_cons, apart, false_or]
      rw [List.cons_append, List.cons_append, apply, apply, step_congr follow]
      exact ih (isSettled_step kept layout _ _ _ _ _) _

theorem render_omit (kept : combination.IsKept) {key : κ} (bare : combination.IsBare key)
    {operand : Text} (blank : operand.trim = []) {text : Text} (settled : layout.IsSettled text)
    (keys : List κ) (earlier later : List (κ × Text)) :
    combination.render layout keys text (earlier ++ (key, operand) :: later) =
      combination.render layout keys text (earlier ++ later) := by
  have unused (other : κ) :
      combination.unused layout ((earlier ++ (key, operand) :: later).map Prod.fst) other =
        combination.unused layout ((earlier ++ later).map Prod.fst) other := by
    by_cases same : other = key
    · subst same
      have isEmpty :
          layout.wrapped (combination.before other) [] (combination.after other) = [] := by
        rw [bare.before, bare.after]
        exact layout.wrapped_nil
      simp only [Combination.unused, isEmpty, ite_self]
    · simp only [Combination.unused, List.map_append, List.map_cons, List.mem_append, List.mem_cons,
        same, false_or]
  rw [render, render, apply_omit space lineBreak kept bare blank settled]
  congr 1
  exact List.flatMap_congr fun other _ => unused other

end

end Combination

/-! ## Statements -/

/-- What a SELECT says before its set operations is visible. -/
theorem SelectBody.IsValid.isVisible_outline {body : SelectBody} (valid : body.IsValid)
    (queries : List (Text × Text)) :
    ∀ segment ∈ body.outline queries, segment.part.IsVisible := by
  simp only [SelectBody.outline, List.forall_mem_cons]
  exact ⟨trivial, ⟨isFragment_word (by decide), valid.columns.fragments⟩,
    ⟨isFragment_word (by decide), valid.tables.fragments⟩, valid.joins.fragments,
    ⟨isFragment_word (by decide), valid.conditions.fragments⟩,
    ⟨isFragment_word (by decide), valid.groups.fragments⟩,
    ⟨isFragment_word (by decide), valid.groupConditions.fragments⟩,
    ⟨isFragment_word (by decide), valid.windows.fragments⟩,
    ⟨isFragment_word (by decide), valid.order.fragments⟩,
    Part.isVisible_single (isFragment_word (by decide)) valid.limit,
    Part.isVisible_single (isFragment_word (by decide)) valid.offset, nofun⟩

namespace Statement

/-- The statement with other common table expressions, if it can have any. -/
def withQueries (queries : List (Text × Operand Statement)) : Statement → Statement
  | select frame body _ operations => select frame body queries operations
  | insert frame body _ source => insert frame body queries source
  | update frame body _ => update frame body queries
  | delete frame body _ => delete frame body queries
  | statement => statement

/-- The second statement is the first one without one of the things inside it that are written as
blank characters in the layout. -/
inductive Omits (layout : Layout) : Statement → Statement → Prop where
  /-- A common table expression, which is written in the nested layout. -/
  | query {host : Statement} {name : Text} {query : Operand Statement}
      (earlier later : List (Text × Operand Statement))
      (shape : host.queries = earlier ++ (name, query) :: later)
      (blank : AllBlank (operandText layout.nested query)) :
      Omits layout host (host.withQueries (earlier ++ later))
  /-- The operand of a set operation of a kind that there is no raw text around. -/
  | operation {frame : Frame} {body : SelectBody} {queries : List (Text × Operand Statement)}
      {operation : SetOperation} {operand : Operand Statement}
      (earlier later : List (SetOperation × Operand Statement))
      (bare : frame.combination.IsBare operation) (blank : AllBlank (operandText layout operand)) :
      Omits layout (select frame body queries (earlier ++ (operation, operand) :: later))
        (select frame body queries (earlier ++ later))
  /-- The source of an INSERT. -/
  | source {frame : Frame} {body : InsertBody} {queries : List (Text × Operand Statement)}
      {source : Statement} (blank : AllBlank (source.render layout)) :
      Omits layout (insert frame body queries (some source)) (insert frame body queries none)
  /-- An entry of a transaction script. -/
  | entry {frame : Frame} {body : TransactionBody} {entry : Operand Statement}
      (earlier later : List (Operand Statement)) (blank : AllBlank (operandText layout entry)) :
      Omits layout (transaction frame body (earlier ++ entry :: later))
        (transaction frame body (earlier ++ later))

/-! ### Common table expressions -/

theorem renderQueries_omit (layout nested : Layout) (name : Text) {query : Operand Statement}
    (blank : AllBlank (operandText nested query))
    (earlier later : List (Text × Operand Statement)) :
    Part.renderQueries layout nested (queryTexts nested (earlier ++ (name, query) :: later)) =
      Part.renderQueries layout nested (queryTexts nested (earlier ++ later)) := by
  have empty := trim_eq_nil_iff.mpr blank
  simp only [Part.renderQueries, queryTexts_eq_map, List.map_append, List.map_cons,
    List.filter_append, List.filter_cons, empty, ne_eq, not_true_eq_false, decide_false,
    Bool.false_eq_true, if_false]

/-- Clauses are written alike if their common table expressions are. -/
theorem render_queries_congr {layout : Layout} {queries others : List (Text × Text)}
    (same : Part.renderQueries layout layout.nested queries =
      Part.renderQueries layout layout.nested others) (kind : Kind) (frame : Frame)
    (rest : List Segment) :
    frame.render layout kind (.clause .withClause (.queries queries) :: rest) =
      frame.render layout kind (.clause .withClause (.queries others) :: rest) := by
  simp only [Frame.render, List.flatMap_cons, Segment.render, Part.render, same]

theorem written_withQueries {layout : Layout} {host : Statement}
    {queries : List (Text × Operand Statement)}
    (same : Part.renderQueries layout layout.nested (queryTexts layout.nested host.queries) =
      Part.renderQueries layout layout.nested (queryTexts layout.nested queries)) :
    (host.withQueries queries).written layout = host.written layout := by
  have clauses := render_queries_congr same.symm
  cases host with
  | select frame body old operations =>
      simp only [withQueries, written, SelectBody.render]
      rw [show frame.render layout .select (body.outline (queryTexts layout.nested queries)) =
        frame.render layout .select (body.outline (queryTexts layout.nested old)) from
        clauses .select frame _]
  | insert frame body old source => exact clauses .insert frame _
  | update frame body old => exact clauses .update frame _
  | delete frame body old => exact clauses .delete frame _
  | values | createTable | dropTable | dropIndex | createIndex | alterTable | transaction => rfl

/-! ### What is left out -/

variable {layout : Layout} {host reduced : Statement}

/-- A valid statement is written alike without what is blank. -/
theorem IsValid.written_of_omits (valid : host.IsValid) (omits : Omits layout host reduced)
    (space : AllBlank layout.space) (lineBreak : AllBlank layout.lineBreak) :
    reduced.written layout = host.written layout := by
  cases omits with
  | query earlier later shape blank =>
      refine written_withQueries ?_
      rw [shape]
      exact renderQueries_omit layout layout.nested _ blank earlier later
  | @operation frame body queries operation operand earlier later bare blank =>
      have clauses : layout.IsSettled
          (frame.render layout .select (body.outline (queryTexts layout.nested queries))) :=
        Frame.isSettled_render valid.frame layout
          (SelectBody.IsValid.isVisible_outline valid.body _)
      have kept : frame.combination.IsKept := Frame.IsValid.combination valid.frame
      have omitted := Combination.render_omit space lineBreak kept bare
        (trim_eq_nil_iff.mpr blank) clauses SetOperation.all (operationTexts layout earlier)
        (operationTexts layout later)
      simp only [operationTexts_eq_map] at omitted
      simp only [written, SelectBody.render, operationTexts_eq_map, List.map_append,
        List.map_cons, omitted]
  | @source frame body queries source blank =>
      have same : (Part.embedded (sourceText layout none)).render layout =
          (Part.embedded (sourceText layout (some source))).render layout := by
        rw [Part.render, Part.render, sourceText_some, trim_eq_nil_iff.mpr blank, sourceText]
        rfl
      simp only [written, InsertBody.outline, Frame.render, List.flatMap_cons, Segment.render, same]
  | @entry frame body entry earlier later blank =>
      have isEmpty := trim_eq_nil_iff.mpr blank
      simp only [written, TransactionBody.outline, entryTexts_eq_map, List.map_append,
        List.map_cons, Frame.render, List.flatMap_append, List.flatMap_cons, Segment.render,
        Part.render, isEmpty, if_true, List.nil_append]

/-- What is left out of a valid statement leaves a valid one. -/
theorem IsValid.of_omits (valid : host.IsValid) (omits : Omits layout host reduced) :
    reduced.IsValid := by
  cases omits with
  | query earlier later shape blank =>
      have names : ∀ other ∈ earlier ++ later, IsValue other.1 := by
        intro other member
        refine valid.names other ?_
        rw [shape]
        exact ((List.sublist_cons_self _ _).append_left earlier).subset member
      cases host with
      | select | insert | update | delete => exact ⟨valid.frame, valid.body, names, nofun⟩
      | _ => exact valid
  | operation | source => exact ⟨valid.frame, valid.body, valid.names, nofun⟩
  | @entry frame body entry earlier later blank =>
      refine ⟨valid.frame, valid.body, nofun, fun command member => valid.commands command ?_⟩
      exact ((List.sublist_cons_self _ _).append_left earlier).subset member

/-- Something blank inside a statement leaves no trace: the statement is rendered as it is without
it. -/
theorem Reachable.render_of_omits (reachable : host.Reachable)
    (space : AllBlank layout.space) (lineBreak : AllBlank layout.lineBreak)
    (omits : Omits layout host reduced) : reduced.render layout = host.render layout := by
  rw [render, render, reachable.isValid.here.written_of_omits omits space lineBreak]

/-- Two columns united with a SELECT without clauses. -/
def unitedWithNothing : Statement :=
  select { dialect := .generic } { columns := ["a".toList, "b".toList] } []
    [(.union, .statement (empty .select .generic))]

theorem reachable_unitedWithNothing : unitedWithNothing.Reachable := by
  have made : Request.create ⟨.select, [], .dialect .generic, []⟩ .builtIn =
      .ok (empty .select .generic) := rfl
  have succeeds : twoColumns.call "union".toList [.statement (empty .select .generic)] =
      .ok unitedWithNothing := rfl
  refine reachable_twoColumns.call ?_ ?_ succeeds
  · intro entry member
    cases List.mem_singleton.mp member
  · intro inner member
    cases List.mem_singleton.mp member
    exact .created made

theorem render_unitedWithNothing :
    unitedWithNothing.Reachable ∧ Omits .compact unitedWithNothing twoColumns ∧
      twoColumns.render .compact = unitedWithNothing.render .compact := by
  have omits : Omits .compact unitedWithNothing twoColumns :=
    .operation [] [] ⟨rfl, rfl⟩ (by decide)
  exact ⟨reachable_unitedWithNothing, omits,
    reachable_unitedWithNothing.render_of_omits (by decide) (by decide) omits⟩

/-- Nor do any number of blank things, left out one after another. -/
theorem Reachable.render_of_omits_all (reachable : host.Reachable)
    (space : AllBlank layout.space) (lineBreak : AllBlank layout.lineBreak)
    (omits : Relation.ReflTransGen (Omits layout) host reduced) :
    reduced.render layout = host.render layout := by
  have kept : reduced.IsValid ∧ reduced.written layout = host.written layout := by
    induction omits with
    | refl => exact ⟨reachable.isValid.here, rfl⟩
    | tail _ last ih =>
        obtain ⟨valid, same⟩ := ih
        exact ⟨valid.of_omits last, (valid.written_of_omits last space lineBreak).trans same⟩
  rw [render, render, kept.2]

end Statement
end SqlText
