import SqlText.Log.Line
import SqlText.Proofs.Opening
import SqlText.Session.Basic

/-!
# What a rendering notes

A rendering visits a tree: first what stands inside a statement and is looked at, in order
(`Statement.embedded`), and then the statement. It leaves the records of what it visits in the order
in which the nodes are finished (`Statement.postOrder`), since its course is the course of what
stands inside, one after another, and the record of the statement at the end
(`Statement.course_eq`). Where everything inside can be written, it gets there, and a session that
renders a statement notes one record for each node (`Statement.events_eq_map_postOrder`).
-/

set_option autoImplicit false

namespace SqlText

/-! ## The tree that is visited -/

/-- A statement that is rendered, with the layout. -/
abbrev Visit := Layout × Statement

mutual
/-- The statements that the rendering of a statement visits, in the order in which they are
finished. -/
def Statement.postOrder (layout : Layout) : Statement → List Visit
  | .select frame body queries operations =>
      queryPostOrder layout.nested queries ++
        (if frame.dialect.supports .setOperations then operationPostOrder layout operations
          else []) ++
        [(layout, .select frame body queries operations)]
  | .insert frame body queries source =>
      queryPostOrder layout.nested queries ++ sourcePostOrder layout source ++
        [(layout, .insert frame body queries source)]
  | .update frame body queries =>
      queryPostOrder layout.nested queries ++ [(layout, .update frame body queries)]
  | .delete frame body queries =>
      queryPostOrder layout.nested queries ++ [(layout, .delete frame body queries)]
  | .transaction frame body entries =>
      entryPostOrder layout entries ++ [(layout, .transaction frame body entries)]
  | .values frame body => [(layout, .values frame body)]
  | .createTable frame body => [(layout, .createTable frame body)]
  | .dropTable frame body => [(layout, .dropTable frame body)]
  | .dropIndex frame body => [(layout, .dropIndex frame body)]
  | .createIndex frame body => [(layout, .createIndex frame body)]
  | .alterTable frame body => [(layout, .alterTable frame body)]

/-- The statements that are visited in what stands inside a statement. -/
def operandPostOrder (layout : Layout) : Operand Statement → List Visit
  | .statement statement => statement.postOrder layout
  | .command _ | .fixed _ => []

/-- The statements that are visited in common table expressions. -/
def queryPostOrder (layout : Layout) : List (Text × Operand Statement) → List Visit
  | [] => []
  | (_, query) :: rest => operandPostOrder layout query ++ queryPostOrder layout rest

/-- The statements that are visited in the operands of set operations. -/
def operationPostOrder (layout : Layout) :
    List (SetOperation × Operand Statement) → List Visit
  | [] => []
  | (_, operand) :: rest => operandPostOrder layout operand ++ operationPostOrder layout rest

/-- The statements that are visited in the source of an INSERT. -/
def sourcePostOrder (layout : Layout) : Option Statement → List Visit
  | none => []
  | some source => source.postOrder layout

/-- The statements that are visited in the entries of a transaction script. -/
def entryPostOrder (layout : Layout) : List (Operand Statement) → List Visit
  | [] => []
  | entry :: rest => operandPostOrder layout entry ++ entryPostOrder layout rest
end

theorem queryPostOrder_eq_flatMap (layout : Layout) (queries : List (Text × Operand Statement)) :
    queryPostOrder layout queries =
      (queries.map fun entry => (layout, entry.2)).flatMap
        fun place => operandPostOrder place.1 place.2 := by
  induction queries with
  | nil => rfl
  | cons first rest ih => rw [queryPostOrder, ih, List.map_cons, List.flatMap_cons]

theorem operationPostOrder_eq_flatMap (layout : Layout)
    (operations : List (SetOperation × Operand Statement)) :
    operationPostOrder layout operations =
      (operations.map fun entry => (layout, entry.2)).flatMap
        fun place => operandPostOrder place.1 place.2 := by
  induction operations with
  | nil => rfl
  | cons first rest ih => rw [operationPostOrder, ih, List.map_cons, List.flatMap_cons]

theorem sourcePostOrder_eq_flatMap (layout : Layout) (source : Option Statement) :
    sourcePostOrder layout source =
      (source.map fun inner => (layout, Operand.statement inner)).toList.flatMap
        fun place => operandPostOrder place.1 place.2 := by
  cases source with
  | none => rfl
  | some inner => simp [sourcePostOrder, operandPostOrder]

theorem entryPostOrder_eq_flatMap (layout : Layout) (entries : List (Operand Statement)) :
    entryPostOrder layout entries =
      (entries.map fun entry => (layout, entry)).flatMap
        fun place => operandPostOrder place.1 place.2 := by
  induction entries with
  | nil => rfl
  | cons first rest ih => rw [entryPostOrder, ih, List.map_cons, List.flatMap_cons]

/-- What stands inside a statement is visited first, in order, and then the statement. -/
theorem Statement.postOrder_eq (layout : Layout) (statement : Statement) :
    statement.postOrder layout =
      (statement.embedded layout).flatMap (fun place => operandPostOrder place.1 place.2) ++
        [(layout, statement)] := by
  cases statement with
  | select frame body queries operations =>
      rw [postOrder, embedded, List.flatMap_append, queryPostOrder_eq_flatMap]
      congr 2
      split
      · exact operationPostOrder_eq_flatMap layout operations
      · rfl
  | insert frame body queries source =>
      rw [postOrder, embedded, List.flatMap_append, queryPostOrder_eq_flatMap,
        sourcePostOrder_eq_flatMap]
  | update | delete => rw [postOrder, embedded, queryPostOrder_eq_flatMap]
  | transaction => rw [postOrder, embedded, entryPostOrder_eq_flatMap]
  | values | createTable | dropTable | dropIndex | createIndex | alterTable => rfl

/-- The record that a visit leaves. -/
def visitRecord (visit : Visit) : Record :=
  ⟨visit.2.kind, visit.2.dialect.name, (visit.2.render visit.1).length⟩

namespace Statement

/-- A rendering that gets to its end leaves the records of what it visits, and nothing else
happens. -/
theorem course_eq_map_postOrder {statement : Statement} {holds : Statement → Prop}
    (everywhere : statement.Everywhere holds) (layout : Layout)
    (succeeds : (statement.course (.ofLayout layout)).failure? = none) :
    statement.course (.ofLayout layout) =
      (statement.postOrder layout).map fun visit => .ok (visitRecord visit) := by
  induction everywhere generalizing layout with
  | @intro statement _ _ ih =>
      rw [course_eq, Course.failure?_append_eq_none] at succeeds
      have step (place : Layout × Operand Statement) (member : place ∈ statement.embedded layout) :
          operandCourse (.ofLayout place.1) place.2 =
            (operandPostOrder place.1 place.2).map fun visit => .ok (visitRecord visit) := by
        have among := mem_operands_of_mem_embedded member
        have ends := Course.failure?_of_flatMap succeeds.1 place member
        obtain ⟨own, operand⟩ := place
        cases operand with
        | statement inner => exact ih inner among own ends
        | command | fixed =>
            rw [failure?_operandCourse] at ends
            · rw [operandCourse_eq, ends]
              · rfl
              · exact nofun
            · exact nofun
      rw [course_eq, postOrder_eq, List.map_append, List.map_flatMap, List.flatMap_congr step]
      rfl

theorem records_map_ok (visits : List Visit) :
    Course.records (visits.map fun visit => .ok (visitRecord visit)) = visits.map visitRecord := by
  induction visits with
  | nil => rfl
  | cons first rest ih => rw [List.map_cons, Course.records, ih, List.map_cons]

theorem events_of_succeeds {statement : Statement} {holds : Statement → Prop}
    (everywhere : statement.Everywhere holds) (layout : Layout)
    (succeeds : (statement.course (.ofLayout layout)).failure? = none) :
    (statement.course (.ofLayout layout)).events =
      (statement.postOrder layout).map fun visit => .rendered (visitRecord visit) := by
  rw [Course.events, course_eq_map_postOrder everywhere layout succeeds, records_map_ok,
    List.map_map]
  rfl

/-- A rendering notes one event for each statement that it visits, in post-order: those of what
stands inside, in order, and then its own, which tells the kind, the name of the own dialect and the
length of the very text that the rendering makes in its layout. A session that is asked to render
the statement answers this text and notes these events, and a log that is set up for debugging
messages has one entry for each of them. The rendering gets to its end where everything inside can
be written. -/
theorem Reachable.events_eq_map_postOrder {statement : Statement} (reachable : statement.Reachable)
    (layout : Layout) :
    (statement.Everywhere HoldsTexts →
      (statement.course (.ofLayout layout)).failure? = none) ∧
    ((statement.course (.ofLayout layout)).failure? = none →
      (statement.course (.ofLayout layout)).events =
        (statement.postOrder layout).map fun visit => .rendered (visitRecord visit)) ∧
    statement.postOrder layout =
      (statement.embedded layout).flatMap (fun place => operandPostOrder place.1 place.2) ++
        [(layout, statement)] ∧
    (∀ (session : Session) (quiet : Bool) (target : Text) (id : Nat) (source : LayoutSource),
      session.find? target = some (id, .statement statement) →
      source.resolve = .ok (.ofLayout layout) →
      (statement.course (.ofLayout layout)).failure? = none →
      session.step quiet (.render target source) =
        ⟨session, .ok (.text (statement.render layout)),
          (statement.postOrder layout).map fun visit => .rendered (visitRecord visit)⟩) ∧
    ∀ (settings : Log.Settings) (timestamp : Text), Level.passes settings.level = true →
      (statement.course (.ofLayout layout)).failure? = none →
      settings.entries timestamp (statement.course (.ofLayout layout)).events =
        (statement.postOrder layout).map fun visit =>
          Log.Entry.noted timestamp Logger.builder
            ("Rendered ".toList ++ visit.2.kind.name.toList ++ " statement".toList)
            [("statement".toList, .text visit.2.kind.name.toList),
             ("dialect".toList, visit.2.dialect.name),
             ("length".toList, .int (visit.2.render visit.1).length)] := by
  have events := events_of_succeeds reachable.isValid layout
  refine ⟨fun texts => failure?_course_of_holdsTexts texts layout, events,
    postOrder_eq layout statement, ?_, ?_⟩
  · intro session quiet target id source found resolved succeeds
    rw [Session.step, Session.render, found]
    simp only [resolved, Course.result, succeeds, events succeeds, LayoutParts.shown_ofLayout]
  · intro settings timestamp passes succeeds
    rw [Log.Settings.entries, if_pos passes, events succeeds, List.map_map]
    rfl

/-- A session that renders two columns united with two columns notes the operand first, and a log
that is set up for debugging messages tells both. -/
theorem events_united :
    (Session.step ⟨.builtIn, [.statement united], [("u".toList, 0)]⟩ false
        (.render "u".toList (.known .pretty))).events =
      [.rendered ⟨.select, .text "generic".toList, "SELECT a,\nb".toList.length⟩,
       .rendered ⟨.select, .text "generic".toList,
         "(SELECT a,\nb) \nUNION (SELECT a,\nb)".toList.length⟩] ∧
      (Log.Settings.entries ⟨Level.debug, true⟩ []
          (united.course (.ofLayout .pretty)).events).map Log.Entry.message =
        ["Rendered Select statement".toList, "Rendered Select statement".toList] := by
  obtain ⟨succeeds, -, -, session, log⟩ := reachable_united.events_eq_map_postOrder .pretty
  have texts : united.Everywhere HoldsTexts := by
    refine .intro ?_ fun inner member => ?_
    · intro operand member
      cases List.mem_singleton.mp member
      rfl
    · cases List.mem_singleton.mp member
      exact .intro (fun operand member => by cases member) fun inner member => by cases member
  constructor
  · rw [session _ _ _ 0 _ rfl rfl (succeeds texts)]
    rfl
  · rw [log _ _ (by decide) (succeeds texts)]
    rfl

end Statement

end SqlText
