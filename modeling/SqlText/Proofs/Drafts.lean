import SqlText.Proofs.Emptiness.Outline
import SqlText.Proofs.Omission
import SqlText.Proofs.Transactions

/-!
# Drafts of a statement

A statement is written stroke by stroke: first the raw text at its start, then one clause after
another, and last its set operations and the raw text of those that it does not have. What there is
after a stroke is a *draft* (`Statement.drafts`), and the last draft is the whole text
(`Statement.getLast?_drafts`). Most strokes put a text behind the draft. A set operation does not:
it trims the draft and puts parentheses around it.

A text is *ended* if it is empty or closes with a visible character that has exactly the terminator
behind it (`Layout.IsEnded`). What a stroke puts behind a draft is ended, and a set operation leaves
an ended draft whatever it is given (`Stroke.Ends`); so by induction on the strokes every draft is
ended. That the whole text is trimmed at its end then takes one terminator away and nothing else
(`Statement.Reachable.isEnded_drafts`).

What stands inside a statement needs no induction here, since each part trims it before writing it.
Nor does it matter how a text opens, which is why the indented actions of an ALTER TABLE are no
exception (compare `Layout.IsSettled`).
-/

set_option autoImplicit false

namespace SqlText

open Text

/-! ## Texts with one terminator at their end -/

namespace Layout

/-- A text that closes with a visible character and has the terminator behind it, or nothing. -/
def IsEnded (layout : Layout) (text : Text) : Prop :=
  text = [] ∨ ∃ core, Closes core ∧ text = core ++ layout.terminator

variable {layout : Layout} {text other : Text}

theorem isEnded_nil (layout : Layout) : layout.IsEnded [] := .inl rfl

theorem isEnded_of_closes (layout : Layout) (closes : Closes text) :
    layout.IsEnded (text ++ layout.terminator) :=
  .inr ⟨text, closes, rfl⟩

theorem IsSettled.isEnded (settled : layout.IsSettled text) : layout.IsEnded text := by
  rcases settled with rfl | ⟨core, fragment, rfl⟩
  · exact layout.isEnded_nil
  · exact layout.isEnded_of_closes fragment.closes

theorem IsEnded.append (ended : layout.IsEnded text) (ended' : layout.IsEnded other) :
    layout.IsEnded (text ++ other) := by
  rcases ended' with rfl | ⟨core, closes, rfl⟩
  · rwa [List.append_nil]
  · rw [← List.append_assoc]
    exact layout.isEnded_of_closes (closes.append text)

/-- Raw text around an ended text leaves it ended. -/
theorem IsEnded.wrapped {before after : List Text} (ended : layout.IsEnded text)
    (visible : ∀ other ∈ before, IsFragment other) (visible' : ∀ other ∈ after, IsFragment other) :
    layout.IsEnded (layout.wrapped before text after) :=
  ((layout.isSettled_rawText visible).isEnded.append ended).append
    (layout.isSettled_rawText visible').isEnded

/-- Where the terminator is blank, an ended text is what is left when it is trimmed at its end, with
the terminator behind it. -/
theorem IsEnded.eq_trimEnd_append (ended : layout.IsEnded text) (space : AllBlank layout.space)
    (lineBreak : AllBlank layout.lineBreak) :
    text = [] ∧ text.trimEnd = [] ∨
      text = text.trimEnd ++ layout.space ++ layout.lineBreak ∧ Closes text.trimEnd := by
  rcases ended with rfl | ⟨core, closes, rfl⟩
  · exact .inl ⟨rfl, rfl⟩
  · have blank : AllBlank layout.terminator := space.append lineBreak
    rw [closes.trimEnd_append blank]
    exact .inr ⟨(List.append_assoc ..).symm, closes⟩

end Layout

/-! ## Parts of an outline -/

namespace Part

theorem isVisible_flag {keyword : Text} (word : IsFragment keyword) (isSet : Bool) :
    (flag keyword isSet).IsVisible := by
  cases isSet with
  | false => exact List.forall_mem_nil _
  | true => exact List.forall_mem_singleton.mpr word

theorem isVisible_targetPart {τ : Type} [DecidableEq τ] {word : τ → Text}
    {target : Option (τ × Text)} {way : τ} (keyword : IsFragment (word way))
    (named : ∀ entry ∈ target, IsFragment entry.2) : (targetPart word target way).IsVisible := by
  cases target with
  | none => exact isVisible_single keyword (.inl rfl)
  | some entry =>
      obtain ⟨used, text⟩ := entry
      refine isVisible_single keyword ?_
      split
      · exact .inr (named _ rfl)
      · exact .inl rfl

/-- Actions are indented, but they close with a visible character all the same. -/
theorem isEnded_actions (layout : Layout) {entries : List (Text × Text)}
    (closes : ∀ entry ∈ entries, Closes entry.2) :
    layout.IsEnded ((actions entries).render layout) := by
  cases entries with
  | nil => exact layout.isEnded_nil
  | cons first rest =>
      refine layout.isEnded_of_closes (closes_join (by simp) fun text member => ?_)
      obtain ⟨entry, among, rfl⟩ := List.mem_map.mp member
      exact (closes entry among).append _

end Part

/-- A segment is ended if its part is, since the raw text around it is ended, too. -/
theorem Segment.isEnded_render {kind : Kind} {frame : Frame} {clauses : List Clause}
    (framed : frame.IsValid clauses) {layout : Layout} {segment : Segment}
    (part : layout.IsEnded (segment.part.render layout)) :
    layout.IsEnded (segment.render layout kind frame) := by
  cases segment with
  | clause place inside =>
      rw [Segment.render]
      split
      · exact part.wrapped (fun _ => framed.before.isFragment_of_mem_get)
          fun _ => framed.after.isFragment_of_mem_get
      · exact layout.isEnded_nil
  | free inside => exact part

/-! ## Outlines -/

section Outlines

open SqlText.Part (isVisible_single isVisible_flag isVisible_targetPart)

theorem InsertBody.IsValid.isVisible_outline {body : InsertBody} (valid : body.IsValid)
    (queries : List (Text × Text)) (source : Text) :
    ∀ segment ∈ body.outline queries source, segment.part.IsVisible := by
  simp only [InsertBody.outline, List.forall_mem_cons]
  exact ⟨trivial, isVisible_targetPart (isFragment_word (by decide)) valid.target,
    isVisible_targetPart (isFragment_word (by decide)) valid.target,
    isVisible_targetPart (isFragment_word (by decide)) valid.target,
    isVisible_single (isFragment_word (by decide)) valid.overriding,
    ⟨isFragment_word (by decide), valid.rows.fragments⟩,
    isVisible_flag (isFragment_word (by decide)) _, trivial,
    isVisible_single (isFragment_word (by decide)) valid.onConflict,
    ⟨isFragment_word (by decide), valid.output.fragments⟩, List.forall_mem_nil _⟩

theorem UpdateBody.IsValid.isVisible_outline {body : UpdateBody} (valid : body.IsValid)
    (queries : List (Text × Text)) :
    ∀ segment ∈ body.outline queries, segment.part.IsVisible := by
  simp only [UpdateBody.outline, List.forall_mem_cons]
  exact ⟨trivial, isVisible_targetPart (isFragment_word (by decide)) valid.target,
    isVisible_targetPart (isFragment_word (by decide)) valid.target,
    ⟨isFragment_word (by decide), valid.assignments.fragments⟩,
    ⟨isFragment_word (by decide), valid.tables.fragments⟩, valid.joins.fragments,
    ⟨isFragment_word (by decide), valid.conditions.fragments⟩,
    ⟨isFragment_word (by decide), valid.output.fragments⟩, List.forall_mem_nil _⟩

theorem DeleteBody.IsValid.isVisible_outline {body : DeleteBody} (valid : body.IsValid)
    (queries : List (Text × Text)) :
    ∀ segment ∈ body.outline queries, segment.part.IsVisible := by
  simp only [DeleteBody.outline, List.forall_mem_cons]
  exact ⟨trivial, isVisible_single (isFragment_word (by decide)) valid.table,
    .inr (isFragment_word (by decide)), ⟨isFragment_word (by decide), valid.conditions.fragments⟩,
    ⟨isFragment_word (by decide), valid.order.fragments⟩,
    isVisible_single (isFragment_word (by decide)) valid.limit,
    ⟨isFragment_word (by decide), valid.output.fragments⟩, List.forall_mem_nil _⟩

theorem ValuesBody.IsValid.isVisible_outline {body : ValuesBody} (valid : body.IsValid) :
    ∀ segment ∈ body.outline, segment.part.IsVisible := by
  simp only [ValuesBody.outline, List.forall_mem_cons]
  exact ⟨⟨isFragment_word (by decide), valid.rows.fragments⟩, List.forall_mem_nil _⟩

theorem CreateTableBody.IsValid.isVisible_outline {body : CreateTableBody} (valid : body.IsValid)
    (frame : Frame) : ∀ segment ∈ body.outline frame, segment.part.IsVisible := by
  simp only [CreateTableBody.outline, List.forall_mem_cons]
  refine ⟨isVisible_single ?_ valid.table, trivial, List.forall_mem_nil _⟩
  split <;> exact isFragment_word (by decide)

theorem DropBody.IsValid.isVisible_outline {body : DropBody} (valid : body.IsValid) (frame : Frame)
    (clause : Clause) {word : Text}
    (plain : IsFragment word ∧ IsFragment (word ++ " IF EXISTS".toList)) :
    ∀ segment ∈ body.outline frame clause word, segment.part.IsVisible := by
  have keyword : IsFragment (if body.ifExists then word ++ " IF EXISTS".toList else word) := by
    split
    · exact plain.2
    · exact plain.1
  have last : IsValue (body.names.getLast?.getD []) := by
    cases named : body.names.getLast? with
    | none => exact .inl rfl
    | some name => exact .inr (valid.names.fragments name (List.mem_of_getLast? named))
  rw [DropBody.outline]
  split
  · exact List.forall_mem_singleton.mpr ⟨keyword, valid.names.fragments⟩
  · exact List.forall_mem_singleton.mpr (isVisible_single keyword last)

theorem CreateIndexBody.IsValid.isVisible_outline {body : CreateIndexBody} (valid : body.IsValid) :
    ∀ segment ∈ body.outline, segment.part.IsVisible := by
  simp only [CreateIndexBody.outline, List.forall_mem_cons]
  exact ⟨valid.isFragment_of_mem_head, valid.isFragment_of_mem_tableWords,
    isVisible_single (isFragment_word (by decide)) valid.method, .inl rfl,
    .inr (isFragment_word (by decide)), ⟨isFragment_word (by decide), valid.conditions.fragments⟩,
    List.forall_mem_nil _⟩

theorem AlterTableBody.IsValid.isEnded_outline {body : AlterTableBody} (valid : body.IsValid)
    (layout : Layout) :
    ∀ segment ∈ body.outline, layout.IsEnded (segment.part.render layout) := by
  have alter : IsFragment "ALTER TABLE".toList := isFragment_word (by decide)
  have rename : IsFragment "RENAME TO".toList := isFragment_word (by decide)
  have table := isVisible_single alter valid.table
  have name := isVisible_single rename valid.newName
  simp only [AlterTableBody.outline, List.forall_mem_cons]
  refine ⟨(Part.isSettled_render layout table).isEnded, (Part.isSettled_render layout name).isEnded,
    Part.isEnded_actions layout fun entry member => ?_, List.forall_mem_nil _⟩
  obtain ⟨action, among, rfl⟩ := List.mem_map.mp member
  exact (valid.actions.fragments action among).closes

theorem TransactionBody.isVisible_outline (layout : Layout) (frame : Frame) (body : TransactionBody)
    (entries : List Text) :
    ∀ segment ∈ body.outline layout frame entries, segment.part.IsVisible := by
  rw [TransactionBody.outline_eq_map, List.forall_mem_map]
  exact fun _ _ => trivial

end Outlines

namespace Statement

/-- Each part of a valid statement is ended. -/
theorem IsValid.isEnded_part {statement : Statement} (valid : statement.IsValid)
    (layout : Layout) :
    ∀ segment ∈ statement.outline layout, layout.IsEnded (segment.part.render layout) := by
  have of_visible {segments : List Segment}
      (visible : ∀ segment ∈ segments, segment.part.IsVisible) :
      ∀ segment ∈ segments, layout.IsEnded (segment.part.render layout) :=
    fun segment member => (Part.isSettled_render layout (visible segment member)).isEnded
  have body := valid.body
  cases statement with
  | select frame select queries operations =>
      exact of_visible (SelectBody.IsValid.isVisible_outline body _)
  | insert frame insert queries source =>
      exact of_visible (InsertBody.IsValid.isVisible_outline body _ _)
  | update frame update queries =>
      exact of_visible (UpdateBody.IsValid.isVisible_outline body _)
  | delete frame delete queries =>
      exact of_visible (DeleteBody.IsValid.isVisible_outline body _)
  | values frame values => exact of_visible (ValuesBody.IsValid.isVisible_outline body)
  | createTable frame table =>
      exact of_visible (CreateTableBody.IsValid.isVisible_outline body frame)
  | dropTable frame drop =>
      have plain : IsFragment "DROP TABLE".toList ∧
          IsFragment ("DROP TABLE".toList ++ " IF EXISTS".toList) :=
        ⟨isFragment_word (by decide), isFragment_word (by decide)⟩
      exact of_visible (DropBody.IsValid.isVisible_outline body frame .dropTable plain)
  | dropIndex frame drop =>
      have plain : IsFragment "DROP INDEX".toList ∧
          IsFragment ("DROP INDEX".toList ++ " IF EXISTS".toList) :=
        ⟨isFragment_word (by decide), isFragment_word (by decide)⟩
      exact of_visible (DropBody.IsValid.isVisible_outline body frame .dropIndex plain)
  | createIndex frame index => exact of_visible (CreateIndexBody.IsValid.isVisible_outline body)
  | alterTable frame table => exact AlterTableBody.IsValid.isEnded_outline body layout
  | transaction frame script entries =>
      exact of_visible (script.isVisible_outline layout frame _)

end Statement

/-! ## Strokes -/

/-- What is done to a draft of a statement. -/
inductive Stroke where
  /-- A text is put behind the draft. -/
  | add (text : Text)
  /-- The draft is combined with the operand of a set operation, which has some operations before
  it and some behind it. -/
  | combine (earlier later : List SetOperation) (operation : SetOperation) (operand : Text)

namespace Stroke

/-- The draft after a stroke, in a statement with the given raw text around its set operations. -/
def apply (layout : Layout) (combination : Combination SetOperation) (draft : Text) :
    Stroke → Text
  | add text => draft ++ text
  | combine earlier later operation operand =>
      combination.step layout earlier later draft operation operand

/-- What a stroke puts behind a draft is ended; a set operation leaves an ended draft, whatever the
draft before it was. -/
def Ends (layout : Layout) (combination : Combination SetOperation) : Stroke → Prop
  | add text => layout.IsEnded text
  | combine earlier later operation operand => ∀ draft,
      layout.IsEnded ((combine earlier later operation operand).apply layout combination draft)

/-- The strokes of set operations, of which those in `earlier` went before. -/
def ofOperations (earlier : List SetOperation) : List (SetOperation × Text) → List Stroke
  | [] => []
  | (operation, operand) :: rest =>
      combine earlier (rest.map Prod.fst) operation operand ::
        ofOperations (operation :: earlier) rest

variable {layout : Layout} {combination : Combination SetOperation}

/-- An ended draft is ended after a stroke. -/
theorem Ends.apply {stroke : Stroke} (ends : stroke.Ends layout combination) {draft : Text}
    (ended : layout.IsEnded draft) : layout.IsEnded (stroke.apply layout combination draft) := by
  cases stroke with
  | add text => exact ended.append ends
  | combine earlier later operation operand => exact ends draft

/-- So all drafts of an ended one are ended. -/
theorem isEnded_of_mem_scanl {strokes : List Stroke}
    (ends : ∀ stroke ∈ strokes, stroke.Ends layout combination) {draft : Text}
    (ended : layout.IsEnded draft) :
    ∀ other ∈ strokes.scanl (Stroke.apply layout combination) draft, layout.IsEnded other := by
  induction strokes generalizing draft with
  | nil => simpa using ended
  | cons first rest ih =>
      obtain ⟨head, others⟩ := List.forall_mem_cons.mp ends
      rw [List.scanl_cons, List.forall_mem_cons]
      exact ⟨ended, ih others (head.apply ended)⟩

theorem ends_of_mem_ofOperations (kept : combination.IsKept) (layout : Layout)
    (earlier : List SetOperation) (operations : List (SetOperation × Text)) :
    ∀ stroke ∈ ofOperations earlier operations, stroke.Ends layout combination := by
  induction operations generalizing earlier with
  | nil => exact List.forall_mem_nil _
  | cons first rest ih =>
      rw [ofOperations, List.forall_mem_cons]
      refine ⟨fun draft => ?_, ih _⟩
      exact (Combination.isSettled_step kept layout _ _ draft _ _).isEnded

theorem ends_add_unused (kept : combination.IsKept) (layout : Layout) (used : List SetOperation)
    (operation : SetOperation) :
    (add (combination.unused layout used operation)).Ends layout combination := by
  rw [Ends, Combination.unused]
  split
  · exact layout.isEnded_nil
  · exact layout.isEnded_nil.wrapped (kept.before operation) (kept.after operation)

/-! ### All strokes together -/

theorem foldl_add {α : Type} (layout : Layout) (combination : Combination SetOperation)
    (items : List α) (write : α → Text) (draft : Text) :
    (items.map fun item => add (write item)).foldl (Stroke.apply layout combination) draft =
      draft ++ items.flatMap write := by
  induction items generalizing draft with
  | nil => exact (List.append_nil draft).symm
  | cons first rest ih =>
      rw [List.map_cons, List.foldl_cons, ih, List.flatMap_cons, ← List.append_assoc]
      rfl

theorem foldl_ofOperations (layout : Layout) (combination : Combination SetOperation)
    (earlier : List SetOperation) (operations : List (SetOperation × Text)) (draft : Text) :
    (ofOperations earlier operations).foldl (Stroke.apply layout combination) draft =
      combination.apply layout earlier draft operations := by
  induction operations generalizing earlier draft with
  | nil => rfl
  | cons first rest ih =>
      rw [ofOperations, List.foldl_cons, ih]
      rfl

end Stroke

/-! ## Statements -/

namespace Statement

/-- The strokes behind the clauses of a SELECT: its set operations, and the raw text of those that
it does not have. -/
def combinationStrokes (layout : Layout) : Statement → List Stroke
  | select frame _ _ operations =>
      if frame.dialect.supports .setOperations then
        let texts := operationTexts layout operations
        Stroke.ofOperations [] texts ++ SetOperation.all.map fun operation =>
          .add (frame.combination.unused layout (texts.map Prod.fst) operation)
      else []
  | _ => []

/-- The strokes that a statement is written in: the raw text at its start, its clauses in their
order, and its set operations. -/
def strokes (layout : Layout) (statement : Statement) : List Stroke :=
  .add (layout.rawText statement.frame.raw) ::
    ((statement.outline layout).map fun segment =>
      .add (segment.render layout statement.kind statement.frame)) ++
    statement.combinationStrokes layout

/-- What there is of a statement before it is written and after each of its strokes. -/
def drafts (layout : Layout) (statement : Statement) : List Text :=
  (statement.strokes layout).scanl (Stroke.apply layout statement.frame.combination) []

variable (statement : Statement) (layout : Layout)

/-- The strokes make the whole text. -/
theorem foldl_strokes :
    (statement.strokes layout).foldl (Stroke.apply layout statement.frame.combination) [] =
      statement.written layout := by
  rw [strokes, List.foldl_append, List.foldl_cons, Stroke.foldl_add, written_eq_combined]
  cases statement with
  | select frame body queries operations =>
      rw [combined, combinationStrokes]
      split
      · rw [List.foldl_append, Stroke.foldl_ofOperations, Stroke.foldl_add]
        rfl
      · rfl
  | _ => rfl

/-- The last draft is the whole text. -/
theorem getLast?_drafts : (statement.drafts layout).getLast? = some (statement.written layout) := by
  rw [drafts, List.getLast?_scanl, foldl_strokes]

variable {statement}

/-- What a valid statement is written in ends as it should. -/
theorem IsValid.ends_of_mem_strokes (valid : statement.IsValid) :
    ∀ stroke ∈ statement.strokes layout, stroke.Ends layout statement.frame.combination := by
  have raw : layout.IsEnded (layout.rawText statement.frame.raw) :=
    (layout.isSettled_rawText valid.frame.raw.fragments).isEnded
  rw [strokes, List.forall_mem_append, List.forall_mem_cons, List.forall_mem_map]
  refine ⟨⟨raw, fun segment member => ?_⟩, ?_⟩
  · exact Segment.isEnded_render valid.frame (valid.isEnded_part layout segment member)
  · cases statement with
    | select frame body queries operations =>
        have kept : frame.combination.IsKept := valid.frame.combination
        rw [combinationStrokes]
        split
        · rw [List.forall_mem_append, List.forall_mem_map]
          exact ⟨Stroke.ends_of_mem_ofOperations kept layout _ _,
            fun operation _ => Stroke.ends_add_unused kept layout _ operation⟩
        · exact List.forall_mem_nil _
    | _ => exact List.forall_mem_nil _

variable {layout}

/-- Where the terminator is blank, the text of a statement is what it is written as without the one
terminator at its end, and so it goes for every draft. The text is empty if nothing is written, and
closes with a visible character otherwise. -/
theorem Reachable.isEnded_drafts (reachable : statement.Reachable) (space : AllBlank layout.space)
    (lineBreak : AllBlank layout.lineBreak) :
    (statement.written layout = [] ∧ statement.render layout = [] ∨
      statement.written layout = statement.render layout ++ layout.space ++ layout.lineBreak ∧
        Closes (statement.render layout)) ∧
    (statement.drafts layout).getLast? = some (statement.written layout) ∧
    (∀ draft ∈ statement.drafts layout, draft = [] ∨
      draft = draft.trimEnd ++ layout.space ++ layout.lineBreak ∧ Closes draft.trimEnd) ∧
    ∀ stroke ∈ statement.strokes layout, stroke.Ends layout statement.frame.combination := by
  have ends := reachable.isValid.here.ends_of_mem_strokes layout
  have ended : ∀ draft ∈ statement.drafts layout, layout.IsEnded draft :=
    Stroke.isEnded_of_mem_scanl ends layout.isEnded_nil
  have last := statement.getLast?_drafts layout
  refine ⟨?_, last, fun draft member => ?_, ends⟩
  · exact (ended _ (List.mem_of_getLast? last)).eq_trimEnd_append space lineBreak
  · exact ((ended draft member).eq_trimEnd_append space lineBreak).imp And.left id

/-- A set operation rewrites the draft before it and leaves the terminator at its end. -/
theorem isEnded_drafts_united :
    united.Reachable ∧ AllBlank Layout.pretty.space ∧ AllBlank Layout.pretty.lineBreak ∧
      united.written .pretty = united.render .pretty ++ " ".toList ++ "\n".toList ∧
      (united.drafts .pretty).eraseDups =
        [[], "SELECT a,\nb \n".toList, "(SELECT a,\nb) \nUNION (SELECT a,\nb) \n".toList] ∧
      ∀ draft ∈ united.drafts .pretty, draft = [] ∨
        draft = draft.trimEnd ++ " ".toList ++ "\n".toList ∧ Closes draft.trimEnd := by
  have space : AllBlank Layout.pretty.space := by decide
  have lineBreak : AllBlank Layout.pretty.lineBreak := by decide
  obtain ⟨whole, -, drafts, -⟩ := reachable_united.isEnded_drafts space lineBreak
  have wrote : united.written .pretty ≠ [] := by decide
  have ended := whole.resolve_left fun nothing => wrote nothing.1
  exact ⟨reachable_united, space, lineBreak, ended.1, by decide, drafts⟩

end Statement
end SqlText
