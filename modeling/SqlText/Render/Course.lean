import SqlText.LayoutParts
import SqlText.Render.Statement

/-!
# The course of a rendering

A rendering can fail, and it leaves records. Each statement that is written leaves a record with
its kind, its dialect and the number of characters of its text as soon as it is finished, so the
records of the statements inside it come first. It fails where a part of the layout is needed that
is not of the right type, where a content that is the same in every layout turns out not to be a
text, and where the argument of a command has no text. Commands and texts leave no record.

A course lists the records and the failures in the order in which they are met. Nothing after the
first failure happens, so a course is put together from the courses of its parts as if there were
none, and is only read up to there (`Course.records_append`, `Course.failure?_append`).

Every statement needs the terminator before anything else. A list needs the separator if it has
items, common table expressions and a parameter list need the nested parts even if they are empty,
and whether the dialect has a clause plays no role in what is needed for it.
-/

set_option autoImplicit false

namespace SqlText

/-- What is noted of a statement that was rendered. -/
structure Record where
  kind : Kind
  dialect : Value
  length : Nat

/-- The records and the failures of a rendering in their order. -/
abbrev Course := List (Except Failure Record)

namespace Course

/-- The records that are left before the first failure. -/
def records : Course → List Record
  | [] => []
  | .error _ :: _ => []
  | .ok record :: rest => record :: records rest

/-- The failure that a course ends with, if it does not get to its end. -/
def failure? : Course → Option Failure
  | [] => none
  | .error failure :: _ => some failure
  | .ok _ :: rest => failure? rest

/-- What there is at the end of a course, or the failure that it ends with before. -/
def result {α : Type} (course : Course) (value : α) : Except Failure α :=
  match course.failure? with
  | some failure => .error failure
  | none => .ok value

/-- The course of a need, which fails if what is needed is not there. -/
def need {α : Type} (found : Except Failure α) : Course :=
  match found with
  | .ok _ => []
  | .error failure => [.error failure]

/-- The course of asking a value for its text. -/
def ofValue (value : Value) : Course :=
  if value.isWritable then [] else [.error (.unusable .manyDigits)]

/-- The course of a need that there is under a condition only. -/
def needIf {α : Type} (wanted : Bool) (found : Except Failure α) : Course :=
  if wanted then need found else []

/-- Two courses one after the other fail as the first one that fails. -/
theorem failure?_append (first second : Course) :
    (first ++ second : Course).failure? = first.failure?.or second.failure? := by
  induction first with
  | nil => rfl
  | cons head rest previous => cases head <;> simp_all [failure?]

/-- Of two courses one after the other the second leaves records if the first does not fail. -/
theorem records_append (first second : Course) :
    (first ++ second : Course).records =
      first.records ++ if first.failure?.isNone then second.records else [] := by
  induction first with
  | nil => rfl
  | cons head rest previous => cases head <;> simp_all [records, failure?]

end Course

/-! ## Parts -/

/-- The course of a part, with those of the queries and of the statement that may stand in it. -/
def Part.course (given : LayoutParts) (queries source : Course) : Part → Course
  | .words _ | .lines _ | .conditions .. | .command _ => []
  | .list _ items => Course.needIf (items.any (· ≠ [])) given.separator
  | .enclosed _ items => Course.needIf (!items.isEmpty) given.separator
  | .actions entries => Course.needIf (!entries.isEmpty) given.separator
  | .queries entries =>
      Course.need given.nested ++ queries ++
        Course.needIf (entries.any fun entry => entry.2.trim ≠ []) given.separator
  | .embedded _ => source
  | .parameters _ => Course.need do (← given.nested).separator

/-- The course of the segments of a statement. -/
def Course.ofSegments (given : LayoutParts) (segments : List Segment)
    (queries source : Course) : Course :=
  Course.need given.terminator ++
    segments.flatMap fun segment => segment.part.course given queries source

/-! ## What can be written -/

/-- Why a command cannot be written, if it cannot. -/
def Command.fault? (command : Command) : Option Failure :=
  if command.isWritable then none else some (.unusable .manyDigits)

/-- Why a content that is the same in every layout cannot be written, if it cannot: it has to be a
text. -/
def Value.fault? (content : Value) : Option Failure :=
  if content.isText then Option.none
  else some (.noAttribute content.typeName "strip".toList)

/-- Why what stands inside a statement cannot be written, if it cannot for itself. -/
def Operand.fault? : Operand Statement → Option Failure
  | .statement _ => none
  | .command order => order.fault?
  | .fixed content => content.fault?

/-! ## Statements -/

/-- The record that a statement leaves. -/
def Statement.record (given : LayoutParts) (statement : Statement) : Record :=
  ⟨statement.kind, statement.dialect.name, (statement.render given.shown).length⟩

/-- The course of the end of a statement. -/
def Statement.finish (given : LayoutParts) (statement : Statement) : Course :=
  [.ok (statement.record given)]

mutual
/-- The course of a statement. -/
def Statement.course (given : LayoutParts) : Statement → Course
  | .select frame body queries operations =>
      Course.ofSegments given (body.outline (queryTexts given.shown.nested queries))
          (queryCourse given.inner queries) [] ++
        (if frame.dialect.supports .setOperations then operationCourse given operations
          else []) ++
        Statement.finish given (.select frame body queries operations)
  | .insert frame body queries source =>
      Course.ofSegments given
          (body.outline (queryTexts given.shown.nested queries) (sourceText given.shown source))
          (queryCourse given.inner queries) (sourceCourse given source) ++
        Statement.finish given (.insert frame body queries source)
  | .update frame body queries =>
      Course.ofSegments given (body.outline (queryTexts given.shown.nested queries))
          (queryCourse given.inner queries) [] ++
        Statement.finish given (.update frame body queries)
  | .delete frame body queries =>
      Course.ofSegments given (body.outline (queryTexts given.shown.nested queries))
          (queryCourse given.inner queries) [] ++
        Statement.finish given (.delete frame body queries)
  | .values frame body =>
      Course.ofSegments given body.outline [] [] ++ Statement.finish given (.values frame body)
  | .createTable frame body =>
      Course.ofSegments given (body.outline frame) [] [] ++
        Statement.finish given (.createTable frame body)
  | .dropTable frame body =>
      Course.ofSegments given (body.outline frame .dropTable "DROP TABLE".toList) [] [] ++
        Statement.finish given (.dropTable frame body)
  | .dropIndex frame body =>
      Course.ofSegments given (body.outline frame .dropIndex "DROP INDEX".toList) [] [] ++
        Statement.finish given (.dropIndex frame body)
  | .createIndex frame body =>
      Course.ofSegments given body.outline [] [] ++
        Statement.finish given (.createIndex frame body)
  | .alterTable frame body =>
      Course.ofSegments given body.outline [] [] ++
        Statement.finish given (.alterTable frame body)
  | .transaction frame body entries =>
      Course.need given.terminator ++ entryCourse given entries ++
        Statement.finish given (.transaction frame body entries)

/-- The course of what stands inside a statement. -/
def operandCourse (given : LayoutParts) : Operand Statement → Course
  | .statement statement => statement.course given
  | operand => operand.fault?.toList.map .error

/-- The course of common table expressions in the parts of the layout that they are written in. -/
def queryCourse (given : LayoutParts) : List (Text × Operand Statement) → Course
  | [] => []
  | (_, query) :: rest => operandCourse given query ++ queryCourse given rest

/-- The course of the operands of set operations. -/
def operationCourse (given : LayoutParts) : List (SetOperation × Operand Statement) → Course
  | [] => []
  | (_, operand) :: rest => operandCourse given operand ++ operationCourse given rest

/-- The course of the source of an INSERT. -/
def sourceCourse (given : LayoutParts) : Option Statement → Course
  | none => []
  | some source => source.course given

/-- The course of the entries of a transaction script. -/
def entryCourse (given : LayoutParts) : List (Operand Statement) → Course
  | [] => []
  | entry :: rest => operandCourse given entry ++ entryCourse given rest
end

end SqlText
