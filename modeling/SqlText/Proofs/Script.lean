import SqlText.Proofs.History
import SqlText.Proofs.Respelling

/-!
# Scripts

A script asks for a statement and calls it, one call after another. What comes of it is the
statement that the calls leave, if there is one, and whether all of them succeed (`Script.outcome`).

The blank characters around what a script gives make no difference to its outcome: it is that of the
script with its texts trimmed (`Script.outcome_trimmed`). Whether a single text of a new statement
counts is found out before it is trimmed: one of blank characters does where an empty one does not,
and both leave the same.
-/

set_option autoImplicit false

namespace SqlText

open Text

/-! ## Scripts -/

/-- A request and calls on the statement that is made. A kind that does not take any number of texts
is given at most one. -/
structure Script where
  request : Request
  calls : List Call
  fits : request.kind.takesMany = true ∨ request.texts.length ≤ 1

/-- Whether all calls succeed, each on what those before it have left. -/
def Statement.allSucceed (statement : Statement) : List Call → Bool
  | [] => true
  | call :: rest =>
      (statement.call call.name call.arguments).isOk &&
        (statement.leftByCall call).allSucceed rest

/-- The statement that calls leave, and whether all of them succeed. -/
def Statement.outcome (statement : Statement) (calls : List Call) : Statement × Bool :=
  (statement.leftByAll calls, statement.allSucceed calls)

/-- What comes of a script, if its statement can be made. -/
def Script.outcome (script : Script) (registry : Registry) : Except Failure (Statement × Bool) := do
  let start ← script.request.create registry
  pure (start.outcome script.calls)

namespace Statement

theorem outcome_append (statement : Statement) (front back : List Call) :
    statement.outcome (front ++ back) =
      (((statement.leftByAll front).outcome back).1,
        statement.allSucceed front && ((statement.leftByAll front).outcome back).2) := by
  have succeeds : statement.allSucceed (front ++ back) =
      (statement.allSucceed front && (statement.leftByAll front).allSucceed back) := by
    induction front generalizing statement with
    | nil => rfl
    | cons call rest ih => rw [List.cons_append, allSucceed, allSucceed, ih, Bool.and_assoc]; rfl
  rw [outcome, leftByAll, List.foldl_append, succeeds]
  rfl

/-- Which methods a statement has depends on its kind and its dialect. -/
theorem method_congr {statement other : Statement} (kind : other.kind = statement.kind)
    (dialect : other.dialect = statement.dialect) (name : Text) :
    other.method name = statement.method name := by
  rw [method, method, kind, dialect]

theorem method_leftByCall (statement : Statement) (call : Call) (name : Text) :
    (statement.leftByCall call).method name = statement.method name :=
  method_congr (kind_and_dialect_leftByCall statement call).1
    (kind_and_dialect_leftByCall statement call).2 name

theorem kind_leftByAll (statement : Statement) (calls : List Call) :
    (statement.leftByAll calls).kind = statement.kind := by
  induction calls generalizing statement with
  | nil => rfl
  | cons call rest ih => exact (ih _).trans (kind_and_dialect_leftByCall statement call).1

end Statement

/-! ## Blank characters -/

/-- The call with its texts trimmed. -/
def Call.trimmed (call : Call) : Call :=
  match Method.ofName? call.name with
  | some method => { call with arguments := method.trimmedArguments call.arguments }
  | none => call

/-- The request with its texts trimmed. -/
def Request.trimmed (request : Request) : Request :=
  { request with texts := request.texts.map Argument.trimmed }

/-- The script with its texts trimmed. -/
def Script.trimmed (script : Script) : Script where
  request := script.request.trimmed
  calls := script.calls.map Call.trimmed
  fits := script.fits.imp id fun few => by simpa [Request.trimmed] using few

namespace Statement

theorem leftByCall_trimmed (statement : Statement) (call : Call) :
    statement.leftByCall call.trimmed = statement.leftByCall call ∧
      statement.call call.trimmed.name call.trimmed.arguments =
        statement.call call.name call.arguments := by
  rw [Call.trimmed]
  cases named : Method.ofName? call.name with
  | none => exact ⟨rfl, rfl⟩
  | some method =>
      simp only [leftByCall, Statement.call]
      cases found : statement.method call.name with
      | error failure => exact ⟨rfl, rfl⟩
      | ok other =>
          have same : other = method :=
            Option.some.inj ((method_eq_ok found).1.symm.trans named)
          subst same
          exact ⟨leftBy_trimmedArguments statement other call.arguments,
            perform_trimmedArguments statement other call.arguments⟩

theorem outcome_trimmed (statement : Statement) (calls : List Call) :
    statement.outcome (calls.map Call.trimmed) = statement.outcome calls := by
  induction calls generalizing statement with
  | nil => rfl
  | cons call rest ih =>
      obtain ⟨left, result⟩ := statement.leftByCall_trimmed call
      have later := ih (statement.leftByCall call)
      simp only [outcome, Prod.mk.injEq] at later ⊢
      simp only [List.map_cons, leftByAll, List.foldl_cons, allSucceed, left, result]
      exact ⟨later.1, by rw [later.2]⟩

/-- A blank text opens a statement that takes a single one like no text at all. -/
theorem edit_empty_of_blank {kind : Kind} {method : Method} (single : kind.takesMany = false)
    (opens : kind.opening = some method) (dialect : Dialect) {texts : List Text}
    (blank : newValue texts = []) :
    (empty kind dialect).edit method texts = empty kind dialect := by
  cases kind with
  | insert | update =>
      cases opens
      simp [empty, edit, InsertBody.edit, UpdateBody.edit, newTarget, blank]
  | delete | createTable | createIndex | alterTable =>
      cases opens
      simp [empty, edit, DeleteBody.edit, CreateTableBody.edit, CreateIndexBody.edit,
        AlterTableBody.edit, blank]
  | transaction => cases opens
  | _ => cases single

end Statement

namespace Request

theorem statement_of_opening {request : Request} {method : Method}
    (opens : request.kind.opening = some method) (dialect : Dialect) :
    request.statement dialect =
      (Statement.empty request.kind dialect).edit method (fragments request.given) := by
  rw [statement, opens]
  cases request.given with
  | cons text texts => rfl
  | nil =>
      revert opens
      cases request.kind <;> intro opens <;> cases opens <;> rfl

/-- A single text counts, or is like no text at all, whatever blank characters are around it. -/
theorem given_singleton_trimmed {kind : Kind} {method : Method} (single : kind.takesMany = false)
    (opens : kind.opening = some method) (dialect : Dialect) (text : Text) :
    (Statement.empty kind dialect).edit method
        (fragments ([Argument.value (.text text.trim)].filter Argument.holds)) =
      (Statement.empty kind dialect).edit method
        (fragments ([Argument.value (.text text)].filter Argument.holds)) := by
  by_cases blank : text.trim = []
  · have left : newValue (fragments ([Argument.value (.text text.trim)].filter Argument.holds)) =
        [] := by
      rw [blank]
      rfl
    have right : newValue (fragments ([Argument.value (.text text)].filter Argument.holds)) =
        [] := by
      cases text with
      | nil => rfl
      | cons first rest => exact blank
    rw [Statement.edit_empty_of_blank single opens dialect left,
      Statement.edit_empty_of_blank single opens dialect right]
  · have visible : text ≠ [] := by
      rintro rfl
      exact blank rfl
    have holds : (Argument.value (.text text)).holds = true := by
      simpa [Argument.holds, Value.holds] using visible
    have holdsToo : (Argument.value (.text text.trim)).holds = true := by
      simpa [Argument.holds, Value.holds] using blank
    rw [List.filter_cons_of_pos holds, List.filter_cons_of_pos holdsToo]
    exact Statement.edit_trimmed _ method [.value (.text text)]

/-- A statement is made of trimmed texts as it is of the texts that are given, and it is asked for
the same ones. -/
theorem statement_trimmed {request : Request}
    (fits : request.kind.takesMany = true ∨ request.texts.length ≤ 1) (dialect : Dialect) :
    request.trimmed.statement dialect = request.statement dialect ∧
      request.trimmed.given.flatMap Argument.course = request.given.flatMap Argument.course := by
  obtain ⟨kind, texts, source, sourceCourse⟩ := request
  cases many : kind.takesMany with
  | true =>
      have given : (Request.mk kind texts source sourceCourse).given = texts := if_pos many
      have givenTrimmed : (Request.mk kind texts source sourceCourse).trimmed.given =
          texts.map Argument.trimmed := if_pos many
      constructor
      · cases opens : kind.opening with
        | none => cases kind <;> cases opens; cases many
        | some method =>
            rw [statement_of_opening opens, statement_of_opening opens, given, givenTrimmed]
            exact Statement.edit_trimmed _ method texts
      · rw [given, givenTrimmed, List.flatMap_def, List.flatMap_def,
          Statement.map_course_trimmed]
  | false =>
      have few : texts.length ≤ 1 := fits.resolve_left (by simp [many])
      have given (texts : List Argument) : (Request.mk kind texts source sourceCourse).given =
          texts.filter Argument.holds := if_neg (by simp [many])
      match texts with
      | [] => exact ⟨rfl, rfl⟩
      | [.value (.text text)] =>
          have givenTrimmed : (Request.mk kind [.value (.text text)] source
              sourceCourse).trimmed.given =
                [Argument.value (.text text.trim)].filter Argument.holds := given _
          constructor
          · cases opens : kind.opening with
            | none => cases kind <;> cases opens; rfl
            | some method =>
                rw [statement_of_opening opens, statement_of_opening opens, given, givenTrimmed]
                exact given_singleton_trimmed many opens dialect text
          · rw [given, givenTrimmed, List.filter_singleton, List.filter_singleton]
            cases (Argument.value (.text text)).holds <;>
              cases (Argument.value (.text text.trim)).holds <;> rfl
      | [.value .none] | [.value (.bool _)] | [.value (.int _)] | [.value (.list _)]
      | [.value (.record _)] | [.member _] | [.command ..] | [.fixed _] | [.statement _]
      | [.other ..] => exact ⟨rfl, rfl⟩
      | _ :: _ :: _ => simp at few

/-- A request for trimmed texts makes the statement that the request makes. -/
theorem create_trimmed {request : Request}
    (fits : request.kind.takesMany = true ∨ request.texts.length ≤ 1) (registry : Registry) :
    request.trimmed.create registry = request.create registry := by
  have course : request.trimmed.course registry = request.course registry := by
    rw [Request.course, Request.course, (statement_trimmed fits .generic).2]
    rfl
  have made (dialect : Dialect) := (statement_trimmed fits dialect).1
  rw [create, create, course]
  simp only [made]
  rfl

end Request

theorem Script.outcome_trimmed (script : Script) (registry : Registry) :
    script.trimmed.outcome registry = script.outcome registry := by
  rw [outcome, outcome]
  simp only [trimmed, Request.create_trimmed script.fits, Statement.outcome_trimmed]

end SqlText
