import SqlText.Proofs.Splitting

/-!
# What a new statement is given, given later

Some kinds take any number of texts when a statement is made. They fill the list of one clause, and
no call that leaves this list alone can tell whether the texts are in it already: it does the same
to the statement with and without them, and fails in the same way (`Statement.leftBy_edit_opening`).
A call may ask for the text of the whole statement. That text is another one then, but whether there
is one does not depend on a list of texts (`Statement.failure?_course_edit`).
-/

set_option autoImplicit false

namespace SqlText

namespace Statement

variable {statement : Statement} {opening method : Method}

/-- A method that is asked for the text of a statement changes nothing. -/
theorem apply_of_writes (writes : method.writes = true) (arguments : List Argument) :
    (∃ failure, ∀ statement : Statement, statement.apply method arguments = .error failure) ∨
      ∀ statement : Statement, statement.apply method arguments = .ok statement := by
  cases method with
  | render =>
      cases arguments with
      | nil => exact .inr fun statement => by cases statement <;> rfl
      | cons layout rest => exact .inl ⟨_, fun _ => rfl⟩
  | print | debug =>
      rcases arguments with _ | ⟨console, _ | ⟨second, rest⟩⟩
      · exact .inr fun statement => by cases statement <;> rfl
      · by_cases holds : console.holds = true
        · exact .inl ⟨_, fun _ => by rw [apply, if_pos holds]⟩
        · exact .inr fun _ => by rw [apply, if_neg holds]
      · exact .inr fun statement => by cases statement <;> rfl
  | toText | quote =>
      rcases arguments with _ | ⟨first, _ | ⟨second, rest⟩⟩ <;>
        exact .inr fun statement => by cases statement <;> rfl
  | _ => cases writes

/-- The frame of a statement and its clauses can be changed in either order. -/
theorem edit_withFrame (frame : Frame) (method : Method) (texts : List Text) :
    (statement.withFrame frame).edit method texts =
      (statement.edit method texts).withFrame frame := by
  cases statement with
  | transaction =>
      simp only [withFrame, edit]
      split <;> rfl
  | _ => rfl

section Opening

variable (many : statement.kind.takesMany = true)
  (opens : statement.kind.opening = some opening) (texts : List Text)
include many opens

/-- Whether a statement can be written does not depend on the list that it is opened with. -/
theorem failure?_course_edit (layout : Layout) :
    ((statement.edit opening texts).course (.ofLayout layout)).failure? =
      (statement.course (.ofLayout layout)).failure? := by
  have same : (statement.edit opening texts).embedded layout = statement.embedded layout := by
    cases statement with
    | select | values | dropTable | dropIndex => rfl
    | _ => cases many
  rw [failure?_course_eq, failure?_course_eq, same]

theorem shownArguments_edit (arguments : List Argument) :
    (statement.edit opening texts).shownArguments method arguments =
      statement.shownArguments method arguments := by
  cases statement with
  | select | values | dropTable | dropIndex => rfl
  | _ => cases many

theorem failure?_ownCourse_edit (arguments : List Argument) :
    ((statement.edit opening texts).ownCourse method arguments).failure? =
      (statement.ownCourse method arguments).failure? := by
  have compact := failure?_course_edit many opens texts .compact
  have pretty := failure?_course_edit many opens texts .pretty
  cases method with
  | toText | quote => exact compact
  | render | print =>
      simp only [ownCourse]
      split
      · exact compact
      · rfl
  | debug =>
      simp only [ownCourse]
      split
      · exact pretty
      · rfl
  | _ => rfl

theorem failure?_callCourse_edit (arguments : List Argument) :
    ((statement.edit opening texts).callCourse method arguments).failure? =
      (statement.callCourse method arguments).failure? := by
  rw [callCourse, callCourse, kind_edit, shownArguments_edit many opens]
  split
  · rw [Course.failure?_append, Course.failure?_append, failure?_ownCourse_edit many opens]
  · rfl

variable (apart : statement.kind.bodySlot? method ≠ statement.kind.bodySlot? opening)
include apart

/-- Texts for other clauses and texts for the list can be given in either order. -/
theorem edit_edit_opening (others : List Text) :
    (statement.edit opening texts).edit method others =
      (statement.edit method others).edit opening texts := by
  cases statement with
  | select =>
      cases opens
      cases method <;> first | rfl | exact absurd rfl apart
  | values =>
      cases opens
      cases method <;> first | rfl | exact absurd rfl apart
  | dropTable | dropIndex =>
      cases opens
      cases method <;> first | rfl | exact absurd rfl apart
  | _ => cases many

omit apart in
theorem clause_edit (place : Argument) :
    (statement.edit opening texts).clause place = statement.clause place := by
  cases statement with
  | select | values | dropTable | dropIndex => rfl
  | _ => cases many

omit apart in
/-- Where something is put inside a statement, the list can be given before or after. -/
theorem apply_edit_inside (puts : statement.putsInside method = true) (argument : Argument) :
    (statement.edit opening texts).apply method [argument] =
      (statement.apply method [argument]).map (·.edit opening texts) := by
  cases statement with
  | select frame body queries operations =>
      cases method with
      | union | intersect | except =>
          simp only [edit, apply, Method.operation?]
          cases argument.operand .select <;> rfl
      | _ => cases puts
  | values | dropTable | dropIndex => cases puts
  | _ => cases many

/-- A call that leaves the list alone does the same with and without the texts in it. -/
theorem apply_edit_opening (arguments : List Argument) :
    (statement.edit opening texts).apply method arguments =
      (statement.apply method arguments).map (·.edit opening texts) := by
  have sameInside : (statement.edit opening texts).putsInside method =
      statement.putsInside method := by
    cases statement with
    | select | values | dropTable | dropIndex => rfl
    | _ => cases many
  by_cases ordinary : method.IsOrdinary
  · cases writes : method.writes with
    | true =>
        rcases apply_of_writes writes arguments with ⟨failure, refuses⟩ | same
        · rw [refuses, refuses]
          rfl
        · rw [same, same]
          rfl
    | false =>
        by_cases single : statement.putsInside method = true ∧ ∃ argument, arguments = [argument]
        · obtain ⟨puts, argument, rfl⟩ := single
          exact apply_edit_inside many opens texts puts argument
        · have given : statement.putsInside method = true → ∀ argument, arguments ≠ [argument] :=
            fun puts argument same => single ⟨puts, argument, same⟩
          rw [apply_eq_edit ordinary writes given,
            apply_eq_edit ordinary writes (by rwa [sameInside]),
            edit_edit_opening many opens texts apart]
          rfl
  · cases method with
    | raw =>
        rw [apply, apply, addRaw, addRaw, frame_edit, ← edit_withFrame]
        rfl
    | rawBefore | rawAfter =>
        cases arguments with
        | nil =>
            cases statement with
            | select | values | dropTable | dropIndex => rfl
            | _ => cases many
        | cons place others =>
            simp only [apply, clause_edit many opens]
            cases statement.clause place with
            | error failure => rfl
            | ok clause =>
                simp only [addBefore, addAfter, frame_edit, ← edit_withFrame]
                rfl
    | withQuery =>
        rcases arguments with _ | ⟨name, _ | ⟨query, _ | ⟨third, rest⟩⟩⟩
        case cons.cons.nil =>
          simp only [apply, kind_edit]
          cases query.operand statement.kind with
          | error failure => rfl
          | ok operand =>
              cases statement with
              | select | values | dropTable | dropIndex => rfl
              | _ => cases many
        all_goals
          cases statement with
          | select | values | dropTable | dropIndex => rfl
          | _ => cases many
    | _ => exact absurd trivial ordinary

theorem during_edit_opening (met : List Argument) :
    (statement.edit opening texts).during method met =
      (statement.during method met).edit opening texts := by
  rw [during, during, takesEach, takesEach, kind_edit,
    apply_edit_opening many opens texts apart]
  by_cases each : (statement.kind.arity method).most.isNone = true
  · rw [if_pos each, if_pos each]
    cases statement.apply method met <;> rfl
  · rw [if_neg each, if_neg each]

theorem perform_edit_opening (arguments : List Argument) :
    (∃ changed, statement.perform method arguments = .ok changed ∧
      (statement.edit opening texts).perform method arguments =
        .ok (changed.edit opening texts)) ∨
      (∃ failure, statement.perform method arguments = .error failure) ∧
        ∃ failure, (statement.edit opening texts).perform method arguments = .error failure := by
  have course : ((statement.edit opening texts).callCourse method arguments).failure? =
      (statement.callCourse method arguments).failure? :=
    failure?_callCourse_edit many opens texts arguments
  have applied := apply_edit_opening many opens texts apart arguments
  rw [perform, perform, kind_edit, Course.result, Course.result, course, applied]
  split
  · cases (statement.callCourse method arguments).failure? with
    | some failure => exact .inr ⟨⟨_, rfl⟩, _, rfl⟩
    | none =>
        cases statement.apply method arguments with
        | error failure => exact .inr ⟨⟨_, rfl⟩, _, rfl⟩
        | ok changed => exact .inl ⟨changed, rfl, rfl⟩
  · exact .inr ⟨⟨_, rfl⟩, _, rfl⟩

/-- A call that leaves the list alone leaves the same with and without the texts in it, and fails
with them if it fails without them. -/
theorem leftBy_edit_opening (arguments : List Argument) :
    (statement.edit opening texts).leftBy method arguments =
        (statement.leftBy method arguments).edit opening texts ∧
      ((statement.edit opening texts).perform method arguments).isOk =
        (statement.perform method arguments).isOk := by
  rcases perform_edit_opening many opens texts apart arguments with
    ⟨changed, performs, performsToo⟩ | ⟨⟨failure, fails⟩, failure', failsToo⟩
  · rw [leftBy_of_perform performs, leftBy_of_perform performsToo, performs, performsToo]
    exact ⟨rfl, rfl⟩
  · rw [leftBy, leftBy, fails, failsToo]
    refine ⟨?_, rfl⟩
    simp only [failure?_callCourse_edit many opens texts,
      during_edit_opening many opens texts apart]
    split <;> rfl

end Opening

end Statement
end SqlText
