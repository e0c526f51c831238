import SqlText.Argument
import SqlText.Proofs.Embedding

/-!
# What can be written

Whenever a statement is written, the statements inside it that are looked at are written first.
`Statement.embedded` lists what stands inside and is looked at, in order, each with the layout it is
written in: the queries of common table expressions in the nested layout, whether or not the dialect
has the clause, then the operands of set operations, if the dialect has these, or the source of an
INSERT, and the entries of a transaction script. In a layout nothing else has a course, since its
parts are texts and so are those of the nested one. So the course of a statement is that of what
stands inside, one after another, and the record of the statement at the end
(`Statement.course_eq`).

It fails in two ways only: a content that is the same in every layout is no text, or the argument of
a command has none. Where there is nothing of the sort among what is looked at, to any depth, the
statement can be written in every layout (`Statement.isSome_failure?_course`), and is asked for its
text as an argument with success (`Argument.isWritable_eq_false_iff`).
-/

set_option autoImplicit false

namespace SqlText

/-! ## What is looked at -/

namespace Statement

/-- What stands inside a statement and is rendered with it, each with its layout, in order. -/
def embedded (layout : Layout) : Statement → List (Layout × Operand Statement)
  | select frame _ queries operations =>
      queries.map (fun entry => (layout.nested, entry.2)) ++
        if frame.dialect.supports .setOperations then
          operations.map fun entry => (layout, entry.2)
        else []
  | insert _ _ queries source =>
      queries.map (fun entry => (layout.nested, entry.2)) ++
        (source.map fun inner => (layout, Operand.statement inner)).toList
  | update _ _ queries | delete _ _ queries =>
      queries.map fun entry => (layout.nested, entry.2)
  | transaction _ _ entries => entries.map fun entry => (layout, entry)
  | _ => []

theorem mem_operands_of_mem_embedded {statement : Statement} {layout : Layout}
    {place : Layout × Operand Statement} (member : place ∈ statement.embedded layout) :
    place.2 ∈ statement.operands := by
  cases statement with
  | select frame body queries operations =>
      rcases List.mem_append.mp member with query | operation
      · obtain ⟨entry, among, rfl⟩ := List.mem_map.mp query
        exact List.mem_append_left _ (List.mem_map_of_mem among)
      · split at operation
        · obtain ⟨entry, among, rfl⟩ := List.mem_map.mp operation
          exact List.mem_append_right _ (List.mem_map_of_mem among)
        · cases operation
  | insert frame body queries source =>
      rcases List.mem_append.mp member with query | inner
      · obtain ⟨entry, among, rfl⟩ := List.mem_map.mp query
        exact List.mem_append_left _ (List.mem_map_of_mem among)
      · cases source with
        | none => cases inner
        | some inner =>
            cases List.mem_singleton.mp inner
            exact List.mem_append_right _ List.mem_cons_self
  | update frame body queries | delete frame body queries =>
      obtain ⟨entry, among, rfl⟩ := List.mem_map.mp member
      exact List.mem_map_of_mem among
  | transaction frame body entries =>
      obtain ⟨entry, among, rfl⟩ := List.mem_map.mp member
      exact among
  | values | createTable | dropTable | dropIndex | createIndex | alterTable => cases member

end Statement

/-! ## Courses that get to their end -/

namespace Course

theorem failure?_append_eq_none {first second : Course} :
    Course.failure? (first ++ second) = none ↔ first.failure? = none ∧ second.failure? = none := by
  rw [failure?_append, Option.or_eq_none_iff]

/-- Courses one after another fail as soon as one of them does. -/
theorem failure?_flatMap {α : Type} {items : List α} {course : α → Course}
    (succeed : ∀ item ∈ items, (course item).failure? = none) :
    Course.failure? (items.flatMap course) = none := by
  induction items with
  | nil => rfl
  | cons first rest ih =>
      rw [List.flatMap_cons, failure?_append_eq_none]
      exact ⟨succeed first List.mem_cons_self,
        ih fun item member => succeed item (List.mem_cons_of_mem _ member)⟩

/-- Where courses one after another do not fail, none of them does. -/
theorem failure?_of_flatMap {α : Type} {items : List α} {course : α → Course}
    (succeed : Course.failure? (items.flatMap course) = none) :
    ∀ item ∈ items, (course item).failure? = none := by
  induction items with
  | nil => nofun
  | cons first rest ih =>
      rw [List.flatMap_cons, failure?_append_eq_none] at succeed
      exact List.forall_mem_cons.mpr ⟨succeed.1, ih succeed.2⟩

/-- Courses one after another fail as the first one that fails. -/
theorem failure?_flatMap_eq {α : Type} (items : List α) (course : α → Course) :
    Course.failure? (items.flatMap course) =
      items.findSome? fun item => (course item).failure? := by
  induction items with
  | nil => rfl
  | cons first rest ih =>
      rw [List.flatMap_cons, failure?_append, ih, List.findSome?_cons]
      cases (course first).failure? <;> rfl

end Course

/-! ## Courses in a layout -/

theorem queryCourse_eq_flatMap (layout : Layout) (queries : List (Text × Operand Statement)) :
    queryCourse (.ofLayout layout) queries =
      (queries.map fun entry => (layout, entry.2)).flatMap
        fun place => operandCourse (.ofLayout place.1) place.2 := by
  induction queries with
  | nil => rfl
  | cons first rest ih => rw [queryCourse, ih, List.map_cons, List.flatMap_cons]

theorem operationCourse_eq_flatMap (layout : Layout)
    (operations : List (SetOperation × Operand Statement)) :
    operationCourse (.ofLayout layout) operations =
      (operations.map fun entry => (layout, entry.2)).flatMap
        fun place => operandCourse (.ofLayout place.1) place.2 := by
  induction operations with
  | nil => rfl
  | cons first rest ih => rw [operationCourse, ih, List.map_cons, List.flatMap_cons]

theorem sourceCourse_eq_flatMap (layout : Layout) (source : Option Statement) :
    sourceCourse (.ofLayout layout) source =
      (source.map fun inner => (layout, Operand.statement inner)).toList.flatMap
        fun place => operandCourse (.ofLayout place.1) place.2 := by
  cases source with
  | none => rfl
  | some inner => simp [sourceCourse, operandCourse]

theorem entryCourse_eq_flatMap (layout : Layout) (entries : List (Operand Statement)) :
    entryCourse (.ofLayout layout) entries =
      (entries.map fun entry => (layout, entry)).flatMap
        fun place => operandCourse (.ofLayout place.1) place.2 := by
  induction entries with
  | nil => rfl
  | cons first rest ih => rw [entryCourse, ih, List.map_cons, List.flatMap_cons]

/-- A part in which no statement stands. -/
def Part.IsPlain : Part → Prop
  | .queries _ | .embedded _ => False
  | _ => True

/-- In a layout nothing happens in a plain part. -/
theorem Part.IsPlain.course_eq_nil {part : Part} (plain : part.IsPlain) (layout : Layout)
    (queries source : Course) : part.course (.ofLayout layout) queries source = [] := by
  cases part with
  | words | lines | conditions | command => rfl
  | list | enclosed | actions =>
      rw [Part.course, LayoutParts.separator_ofLayout, Course.needIf]
      split <;> rfl
  | parameters =>
      rw [Part.course, LayoutParts.nested_ofLayout]
      rfl
  | queries | embedded => exact plain.elim

theorem Part.course_queries (layout : Layout) (entries : List (Text × Text))
    (queries source : Course) :
    (Part.queries entries).course (.ofLayout layout) queries source = queries := by
  rw [Part.course, LayoutParts.nested_ofLayout, LayoutParts.separator_ofLayout, Course.needIf]
  split <;> exact List.append_nil queries

theorem Part.isPlain_single (keyword value : Text) : (Part.single keyword value).IsPlain := by
  rw [Part.single]
  split <;> trivial

theorem Part.isPlain_targetPart {τ : Type} [DecidableEq τ] (word : τ → Text)
    (target : Option (τ × Text)) (way : τ) : (targetPart word target way).IsPlain := by
  cases target with
  | none => exact isPlain_single _ _
  | some used => exact isPlain_single _ _

theorem Part.isPlain_flag (keyword : Text) (isSet : Bool) : (flag keyword isSet).IsPlain := by
  cases isSet <;> trivial

theorem Course.ofSegments_ofLayout (layout : Layout) (segments : List Segment)
    (queries source : Course) :
    Course.ofSegments (.ofLayout layout) segments queries source =
      segments.flatMap fun segment => segment.part.course (.ofLayout layout) queries source := by
  rw [Course.ofSegments, LayoutParts.terminator_ofLayout]
  rfl

section Outlines

open SqlText.Part (course_queries isPlain_single isPlain_targetPart isPlain_flag)

variable (layout : Layout) (queries source : Course) (entries : List (Text × Text))

theorem SelectBody.course_outline (body : SelectBody) :
    Course.ofSegments (.ofLayout layout) (body.outline entries) queries source = queries := by
  have plain (part : Part) (isPlain : part.IsPlain) :=
    isPlain.course_eq_nil layout queries source
  simp only [Course.ofSegments_ofLayout, outline, List.flatMap_cons, List.flatMap_nil,
    Segment.part, course_queries, plain _ (isPlain_single _ _), plain (.list _ _) trivial,
    plain (.lines _) trivial, plain (.conditions _ _) trivial, List.append_nil]

theorem InsertBody.course_outline (body : InsertBody) (text : Text) :
    Course.ofSegments (.ofLayout layout) (body.outline entries text) queries source =
      queries ++ source := by
  have plain (part : Part) (isPlain : part.IsPlain) :=
    isPlain.course_eq_nil layout queries source
  have embedded : (Part.embedded text).course (.ofLayout layout) queries source = source := rfl
  simp only [Course.ofSegments_ofLayout, outline, List.flatMap_cons, List.flatMap_nil,
    Segment.part, course_queries, embedded, plain _ (isPlain_single _ _),
    plain _ (isPlain_targetPart _ _ _), plain _ (isPlain_flag _ _), plain (.list _ _) trivial,
    List.nil_append, List.append_nil]

theorem UpdateBody.course_outline (body : UpdateBody) :
    Course.ofSegments (.ofLayout layout) (body.outline entries) queries source = queries := by
  have plain (part : Part) (isPlain : part.IsPlain) :=
    isPlain.course_eq_nil layout queries source
  simp only [Course.ofSegments_ofLayout, outline, List.flatMap_cons, List.flatMap_nil,
    Segment.part, course_queries, plain _ (isPlain_targetPart _ _ _), plain (.list _ _) trivial,
    plain (.lines _) trivial, plain (.conditions _ _) trivial, List.append_nil]

theorem DeleteBody.course_outline (body : DeleteBody) :
    Course.ofSegments (.ofLayout layout) (body.outline entries) queries source = queries := by
  have plain (part : Part) (isPlain : part.IsPlain) :=
    isPlain.course_eq_nil layout queries source
  simp only [Course.ofSegments_ofLayout, outline, List.flatMap_cons, List.flatMap_nil,
    Segment.part, course_queries, plain _ (isPlain_single _ _), plain (.list _ _) trivial,
    plain (.enclosed _ _) trivial, plain (.conditions _ _) trivial, List.append_nil]

/-- In a layout nothing happens in plain parts. -/
theorem Course.ofSegments_plain {segments : List Segment}
    (plain : ∀ segment ∈ segments, segment.part.IsPlain) :
    Course.ofSegments (.ofLayout layout) segments queries source = [] := by
  rw [ofSegments_ofLayout, List.flatMap_eq_nil_iff]
  exact fun segment member => (plain segment member).course_eq_nil layout queries source

theorem ValuesBody.isPlain_outline (body : ValuesBody) :
    ∀ segment ∈ body.outline, segment.part.IsPlain := by
  intro segment member
  cases List.mem_singleton.mp member
  trivial

theorem CreateTableBody.isPlain_outline (body : CreateTableBody) (frame : Frame) :
    ∀ segment ∈ body.outline frame, segment.part.IsPlain := by
  intro segment member
  simp only [outline, List.mem_cons, List.not_mem_nil, or_false] at member
  rcases member with rfl | rfl
  · exact isPlain_single _ _
  · trivial

theorem DropBody.isPlain_outline (body : DropBody) (frame : Frame) (clause : Clause) (word : Text) :
    ∀ segment ∈ body.outline frame clause word, segment.part.IsPlain := by
  intro segment member
  simp only [outline] at member
  split at member
  · cases List.mem_singleton.mp member
    trivial
  · cases List.mem_singleton.mp member
    exact isPlain_single _ _

theorem CreateIndexBody.isPlain_outline (body : CreateIndexBody) :
    ∀ segment ∈ body.outline, segment.part.IsPlain := by
  intro segment member
  simp only [outline, List.mem_cons, List.not_mem_nil, or_false] at member
  rcases member with rfl | rfl | rfl | rfl | rfl | rfl
  case inr.inr.inl => exact isPlain_single _ _
  all_goals trivial

theorem AlterTableBody.isPlain_outline (body : AlterTableBody) :
    ∀ segment ∈ body.outline, segment.part.IsPlain := by
  intro segment member
  simp only [outline, List.mem_cons, List.not_mem_nil, or_false] at member
  rcases member with rfl | rfl | rfl
  · exact isPlain_single _ _
  · exact isPlain_single _ _
  · trivial

end Outlines

namespace Statement

section Plain

variable {given : LayoutParts} {operand : Operand Statement}
variable (plain : ∀ inner, operand ≠ .statement inner)
include plain

/-- What is no statement fails for itself, and leaves nothing if it can be written. -/
theorem operandCourse_eq :
    operandCourse given operand = operand.fault?.toList.map Except.error := by
  cases operand with
  | statement inner => exact absurd rfl (plain inner)
  | command | fixed =>
      rw [operandCourse]
      exact nofun

theorem failure?_operandCourse : (operandCourse given operand).failure? = operand.fault? := by
  rw [operandCourse_eq plain]
  cases operand.fault? <;> rfl

end Plain

/-- What happens in the rendering of a statement is what happens in what stands inside it, in
order, and its own record. -/
theorem course_eq (layout : Layout) (statement : Statement) :
    statement.course (.ofLayout layout) =
      (statement.embedded layout).flatMap
          (fun place => operandCourse (.ofLayout place.1) place.2) ++
        [.ok (statement.record (.ofLayout layout))] := by
  cases statement with
  | select frame body queries operations =>
      rw [course, LayoutParts.inner_ofLayout, SelectBody.course_outline, embedded,
        List.flatMap_append, queryCourse_eq_flatMap, finish]
      congr 2
      split
      · exact operationCourse_eq_flatMap layout operations
      · rfl
  | insert frame body queries source =>
      rw [course, LayoutParts.inner_ofLayout, InsertBody.course_outline, embedded,
        List.flatMap_append, queryCourse_eq_flatMap, sourceCourse_eq_flatMap, finish]
  | update frame body queries =>
      rw [course, LayoutParts.inner_ofLayout, UpdateBody.course_outline, embedded,
        queryCourse_eq_flatMap, finish]
  | delete frame body queries =>
      rw [course, LayoutParts.inner_ofLayout, DeleteBody.course_outline, embedded,
        queryCourse_eq_flatMap, finish]
  | values frame body | createIndex frame body | alterTable frame body =>
      rw [course, Course.ofSegments_plain layout [] [] body.isPlain_outline]
      rfl
  | createTable frame body =>
      rw [course, Course.ofSegments_plain layout [] [] (body.isPlain_outline frame)]
      rfl
  | dropTable frame body | dropIndex frame body =>
      rw [course, Course.ofSegments_plain layout [] [] (body.isPlain_outline frame _ _)]
      rfl
  | transaction frame body entries =>
      rw [course, LayoutParts.terminator_ofLayout, embedded, entryCourse_eq_flatMap, finish]
      rfl

/-! ## What cannot be written -/

/-- A statement fails as the first of what is looked at in it that fails. -/
theorem failure?_course_eq (layout : Layout) (statement : Statement) :
    (statement.course (.ofLayout layout)).failure? =
      (statement.embedded layout).findSome? fun place =>
        (operandCourse (.ofLayout place.1) place.2).failure? := by
  rw [course_eq, Course.failure?_append, Course.failure?_flatMap_eq]
  exact Option.or_none

/-- What stands directly inside the statement can be written, as far as it is no statement: contents
that are the same in every layout are texts, and the arguments of commands have texts. -/
def HoldsTexts (statement : Statement) : Prop :=
  ∀ operand ∈ statement.operands, operand.fault? = none

/-- Where this holds to any depth, everything can be written in every layout. -/
theorem failure?_course_of_holdsTexts {statement : Statement}
    (texts : statement.Everywhere HoldsTexts) (layout : Layout) :
    (statement.course (.ofLayout layout)).failure? = none := by
  induction texts generalizing layout with
  | intro here inside ih =>
      rw [failure?_course_eq, List.findSome?_eq_none_iff]
      intro place member
      have among := mem_operands_of_mem_embedded member
      obtain ⟨own, operand⟩ := place
      cases operand with
      | statement inner => exact ih inner among own
      | command | fixed =>
          refine (failure?_operandCourse ?_).trans (here _ among)
          exact nofun

/-- What stands inside a statement and is looked at when it is written. -/
def visible (statement : Statement) : List (Operand Statement) :=
  (statement.embedded .compact).map Prod.snd

/-- In every layout the same is looked at. -/
theorem map_snd_embedded (layout : Layout) (statement : Statement) :
    (statement.embedded layout).map Prod.snd = statement.visible := by
  cases statement with
  | select frame body queries operations =>
      simp only [visible, embedded, List.map_append]
      split
      · simp only [List.map_map]
        rfl
      · simp only [List.map_map]
        rfl
  | insert frame body queries source => cases source <;> simp [visible, embedded]
  | update | delete | transaction => simp [visible, embedded]
  | values | createTable | dropTable | dropIndex | createIndex | alterTable => rfl

/-- Among what is looked at in a statement, to any depth, something cannot be written. -/
inductive IsMute : Statement → Prop where
  | here {statement : Statement} {operand : Operand Statement} {failure : Failure}
      (member : operand ∈ statement.visible) (fault : operand.fault? = some failure) :
      IsMute statement
  | inside {statement inner : Statement} (member : .statement inner ∈ statement.visible)
      (mute : IsMute inner) : IsMute statement

theorem exists_of_mem_visible {statement : Statement} {operand : Operand Statement}
    (layout : Layout) (member : operand ∈ statement.visible) :
    ∃ own, (own, operand) ∈ statement.embedded layout := by
  rw [← map_snd_embedded layout] at member
  obtain ⟨⟨own, _⟩, among, rfl⟩ := List.mem_map.mp member
  exact ⟨own, among⟩

theorem mem_visible_of_mem_embedded {statement : Statement} {layout : Layout}
    {place : Layout × Operand Statement} (member : place ∈ statement.embedded layout) :
    place.2 ∈ statement.visible := by
  rw [← map_snd_embedded layout]
  exact List.mem_map_of_mem member

/-- A statement cannot be written, whatever the layout, exactly if something in it cannot. -/
theorem isSome_failure?_course (statement : Statement) (layout : Layout) :
    (statement.course (.ofLayout layout)).failure?.isSome = true ↔ statement.IsMute := by
  rw [failure?_course_eq, List.findSome?_isSome_iff]
  constructor
  · rintro ⟨⟨own, operand⟩, member, fails⟩
    have among := mem_visible_of_mem_embedded member
    cases operand with
    | statement inner =>
        have smaller := sizeOf_lt_of_mem_operands (mem_operands_of_mem_embedded member)
        exact .inside among ((isSome_failure?_course inner own).mp fails)
    | command | fixed =>
        rw [failure?_operandCourse] at fails
        · obtain ⟨failure, fault⟩ := Option.isSome_iff_exists.mp fails
          exact .here among fault
        · exact nofun
  · intro mute
    induction mute generalizing layout with
    | @here statement operand failure member fault =>
        obtain ⟨own, among⟩ := exists_of_mem_visible layout member
        refine ⟨_, among, ?_⟩
        rw [failure?_operandCourse, fault]
        · rfl
        · rintro inner rfl
          cases fault
    | @inside statement inner member mute ih =>
        obtain ⟨own, among⟩ := exists_of_mem_visible layout member
        refine ⟨_, among, ?_⟩
        rw [operandCourse, failure?_course_eq, List.findSome?_isSome_iff]
        exact ih own
termination_by sizeOf statement

end Statement

/-! ## Arguments without a text -/

namespace Argument

/-- The argument has no text: it is a number with too many digits, or there is one in it, or it is a
statement in which something cannot be written. -/
inductive IsMute : Argument → Prop where
  | value {plain : Value} (long : plain.isWritable = false) : IsMute (.value plain)
  | command {kind : CommandKind} {given : Value} (long : given.isWritable = false) :
      IsMute (.command kind given)
  | fixed {content : Value} (long : content.isWritable = false) : IsMute (.fixed content)
  | statement {inner : Statement} (mute : inner.IsMute) : IsMute (.statement inner)

theorem isWritable_eq_false_iff {argument : Argument} :
    argument.isWritable = false ↔ argument.IsMute := by
  have plain (given : Value) :
      (Course.ofValue given).failure?.isNone = false ↔ given.isWritable = false := by
    rw [Course.ofValue]
    cases given.isWritable with
    | true => exact iff_of_false nofun nofun
    | false => exact iff_of_true rfl rfl
  cases argument with
  | value given => exact (plain given).trans ⟨.value, fun | .value long => long⟩
  | command kind given => exact (plain given).trans ⟨.command, fun | .command long => long⟩
  | fixed content => exact (plain content).trans ⟨.fixed, fun | .fixed long => long⟩
  | statement inner =>
      have told := inner.isSome_failure?_course .compact
      rw [isWritable, Option.isNone_eq_false_iff]
      exact told.trans ⟨.statement, fun | .statement mute => mute⟩
  | member | other => exact iff_of_false nofun nofun

end Argument

end SqlText
