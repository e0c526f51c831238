import SqlText.Proofs.Refusal
import SqlText.Proofs.Slots.Calls
import SqlText.Proofs.Trimming

/-!
# Blank characters around what is given

A text is trimmed before it is kept, so a call does the same with a text as with the trimmed text
(`Statement.edit_map_trim`). This is so wherever a call takes a text as a fragment, but for the
argument of a call that attaches raw text by which it names the clause.

The trimmed text stands for all texts that differ from it in blank characters alone
(`Argument.trimmed`). Since a call with the trimmed arguments (`Method.trimmedArguments`) succeeds
when the call with the given ones does, and leaves the same statement
(`Statement.perform_trimmedArguments`, `Statement.leftBy_trimmedArguments`), so do any two calls
whose arguments have the same trimmed ones.
-/

set_option autoImplicit false

namespace SqlText

open Text

/-! ## Texts -/

theorem pushUnique_trim (items : List Text) (fragment : Text) :
    pushUnique items fragment.trim = pushUnique items fragment := by
  rw [pushUnique, pushUnique, trim_trim]

theorem pushAll_map_trim (items texts : List Text) :
    pushAll items (texts.map Text.trim) = pushAll items texts := by
  rw [pushAll, pushAll, List.foldl_map]
  simp only [pushUnique_trim]

theorem givenTexts_map_trim (texts : List Text) :
    givenTexts (texts.map Text.trim) = givenTexts texts := by
  rw [givenTexts, givenTexts, List.map_map]
  simp only [Function.comp_def, trim_trim]

theorem newValue_map_trim (texts : List Text) :
    newValue (texts.map Text.trim) = newValue texts := by
  cases texts with
  | nil => rfl
  | cons first rest => exact trim_trim first

theorem newTarget_map_trim {τ : Type} (way : τ) (texts : List Text) :
    newTarget way (texts.map Text.trim) = newTarget way texts := by
  rw [newTarget, newTarget, newValue_map_trim]

theorem pushJoins_map_trim (items : List Text) (word : Text) (texts : List Text) :
    pushJoins items word (texts.map Text.trim) = pushJoins items word texts := by
  rw [pushJoins, pushJoins, givenTexts_map_trim]

theorem pushRows_map_trim (items texts : List Text) :
    pushRows items (texts.map Text.trim) = pushRows items texts := by
  rw [pushRows, pushRows, givenTexts_map_trim]

theorem pushConditions_map_trim (conditions : List Condition) (operator : Operator)
    (texts : List Text) :
    pushConditions conditions operator (texts.map Text.trim) =
      pushConditions conditions operator texts := by
  rw [pushConditions, pushConditions, List.foldl_map]
  simp only [pushCondition, trim_trim]

theorem pushAction_map_trim (actions : List (AlterAction × Text)) (action : AlterAction)
    (texts : List Text) :
    pushAction actions action (texts.map Text.trim) = pushAction actions action texts := by
  rw [pushAction, pushAction, newValue_map_trim]

theorem RawText.pushAll_map_trim {κ : Type} [DecidableEq κ] (raw : RawText κ) (clause : κ)
    (texts : List Text) :
    raw.pushAll clause (texts.map Text.trim) = raw.pushAll clause texts := by
  rw [RawText.pushAll, RawText.pushAll, List.foldl_map]
  simp only [RawText.push, trim_trim]

/-! ## Bodies -/

section Bodies

variable (method : Method) (texts : List Text)

theorem SelectBody.edit_map_trim (body : SelectBody) :
    body.edit method (texts.map Text.trim) = body.edit method texts := by
  unfold SelectBody.edit
  split <;> simp only [pushAll_map_trim, pushJoins_map_trim, pushConditions_map_trim,
    newValue_map_trim]

theorem InsertBody.edit_map_trim (body : InsertBody) :
    body.edit method (texts.map Text.trim) = body.edit method texts := by
  unfold InsertBody.edit
  split <;> simp only [pushAll_map_trim, pushRows_map_trim, newValue_map_trim, newTarget_map_trim]

theorem UpdateBody.edit_map_trim (body : UpdateBody) :
    body.edit method (texts.map Text.trim) = body.edit method texts := by
  unfold UpdateBody.edit
  split <;> simp only [pushAll_map_trim, pushJoins_map_trim, pushConditions_map_trim,
    newTarget_map_trim]

theorem DeleteBody.edit_map_trim (body : DeleteBody) :
    body.edit method (texts.map Text.trim) = body.edit method texts := by
  unfold DeleteBody.edit
  split <;> simp only [pushAll_map_trim, pushConditions_map_trim, newValue_map_trim]

theorem ValuesBody.edit_map_trim (body : ValuesBody) :
    body.edit method (texts.map Text.trim) = body.edit method texts := by
  unfold ValuesBody.edit
  split <;> simp only [pushAll_map_trim, pushRows_map_trim]

theorem CreateTableBody.edit_map_trim (body : CreateTableBody) :
    body.edit method (texts.map Text.trim) = body.edit method texts := by
  unfold CreateTableBody.edit
  split <;> simp only [pushAll_map_trim, newValue_map_trim]

theorem DropBody.edit_map_trim (body : DropBody) :
    body.edit method (texts.map Text.trim) = body.edit method texts := by
  unfold DropBody.edit
  split <;> simp only [pushAll_map_trim]

theorem CreateIndexBody.edit_map_trim (body : CreateIndexBody) :
    body.edit method (texts.map Text.trim) = body.edit method texts := by
  unfold CreateIndexBody.edit
  split <;> simp only [pushAll_map_trim, pushConditions_map_trim, newValue_map_trim]

theorem AlterTableBody.edit_map_trim (body : AlterTableBody) :
    body.edit method (texts.map Text.trim) = body.edit method texts := by
  unfold AlterTableBody.edit
  split <;> simp only [pushAction_map_trim, newValue_map_trim]

theorem TransactionBody.edit_map_trim (body : TransactionBody) :
    body.edit method (texts.map Text.trim) = body.edit method texts := by
  unfold TransactionBody.edit
  split <;> simp only [newValue_map_trim]

end Bodies

namespace Statement

/-- A call does the same with texts as with the trimmed texts. -/
theorem edit_map_trim (statement : Statement) (method : Method) (texts : List Text) :
    statement.edit method (texts.map Text.trim) = statement.edit method texts := by
  cases statement with
  | select => rw [edit, SelectBody.edit_map_trim, ← edit]
  | insert => rw [edit, InsertBody.edit_map_trim, ← edit]
  | update => rw [edit, UpdateBody.edit_map_trim, ← edit]
  | delete => rw [edit, DeleteBody.edit_map_trim, ← edit]
  | values => rw [edit, ValuesBody.edit_map_trim, ← edit]
  | createTable => rw [edit, CreateTableBody.edit_map_trim, ← edit]
  | dropTable => rw [edit, DropBody.edit_map_trim, ← edit]
  | dropIndex => rw [edit, DropBody.edit_map_trim, ← edit]
  | createIndex => rw [edit, CreateIndexBody.edit_map_trim, ← edit]
  | alterTable => rw [edit, AlterTableBody.edit_map_trim, ← edit]
  | transaction => rw [edit, TransactionBody.edit_map_trim, newValue_map_trim, ← edit]

end Statement

/-! ## Arguments -/

/-- The argument with its text trimmed. Anything but a text is left alone. -/
def Argument.trimmed : Argument → Argument
  | .value (.text text) => .value (.text text.trim)
  | argument => argument

namespace Argument

variable (argument : Argument)

theorem course_trimmed : argument.trimmed.course = argument.course := by
  unfold trimmed
  split <;> rfl

theorem isWritable_trimmed : argument.trimmed.isWritable = argument.isWritable := by
  rw [isWritable, course_trimmed, isWritable]

theorem trim_fragment_trimmed : argument.trimmed.fragment.trim = argument.fragment.trim := by
  unfold trimmed
  split
  · exact trim_trim _
  · rfl

theorem operand_trimmed (host : Kind) : argument.trimmed.operand host = argument.operand host := by
  unfold trimmed
  split <;> rfl

end Argument

theorem map_trim_fragments (arguments : List Argument) :
    (fragments (arguments.map Argument.trimmed)).map Text.trim =
      (fragments arguments).map Text.trim := by
  simp only [fragments, List.map_map, Function.comp_def, Argument.trim_fragment_trimmed]

/-- The arguments of a method with those texts trimmed that it takes as fragments. -/
def Method.trimmedArguments (method : Method) (arguments : List Argument) : List Argument :=
  match method, arguments with
  | rawBefore, place :: texts | rawAfter, place :: texts => place :: texts.map Argument.trimmed
  | method, arguments =>
      if method.writes then arguments else arguments.map Argument.trimmed

namespace Method

theorem trimmedArguments_of_writes {method : Method} (writes : method.writes = true)
    (arguments : List Argument) : method.trimmedArguments arguments = arguments := by
  cases method <;> first | rfl | cases writes

theorem trimmedArguments_of_isOrdinary {method : Method} (ordinary : method.IsOrdinary)
    (silent : method.writes = false) (arguments : List Argument) :
    method.trimmedArguments arguments = arguments.map Argument.trimmed := by
  cases method <;> first | rfl | exact ordinary.elim | cases silent

variable (method : Method) (arguments : List Argument)

theorem length_trimmedArguments :
    (method.trimmedArguments arguments).length = arguments.length := by
  unfold trimmedArguments
  split
  · simp
  · simp
  · split <;> simp

/-- The arguments that have a text before the first one without are the same. -/
theorem takeWhile_trimmedArguments :
    (method.trimmedArguments arguments).takeWhile Argument.isWritable =
      method.trimmedArguments (arguments.takeWhile Argument.isWritable) := by
  have same : Argument.isWritable ∘ Argument.trimmed = Argument.isWritable :=
    funext Argument.isWritable_trimmed
  have mapped (texts : List Argument) :
      (texts.map Argument.trimmed).takeWhile Argument.isWritable =
        (texts.takeWhile Argument.isWritable).map Argument.trimmed := by
    rw [List.takeWhile_map, same]
  cases method with
  | rawBefore | rawAfter =>
      cases arguments with
      | nil => rfl
      | cons place texts =>
          simp only [trimmedArguments]
          by_cases written : place.isWritable = true
          · rw [List.takeWhile_cons_of_pos written, List.takeWhile_cons_of_pos written, mapped]
          · rw [List.takeWhile_cons_of_neg written, List.takeWhile_cons_of_neg written]
            rfl
  | render | toText | quote | print | debug => rfl
  | _ => exact mapped arguments

end Method

/-! ## Calls -/

namespace Statement

variable (statement : Statement)

theorem edit_trimmed (method : Method) (arguments : List Argument) :
    statement.edit method (fragments (arguments.map Argument.trimmed)) =
      statement.edit method (fragments arguments) := by
  rw [← edit_map_trim, map_trim_fragments, edit_map_trim]

theorem addRaw_trimmed (arguments : List Argument) :
    statement.addRaw (fragments (arguments.map Argument.trimmed)) =
      statement.addRaw (fragments arguments) := by
  rw [addRaw, ← pushAll_map_trim, map_trim_fragments, pushAll_map_trim, ← addRaw]

theorem addBefore_trimmed (clause : Clause) (arguments : List Argument) :
    statement.addBefore clause (fragments (arguments.map Argument.trimmed)) =
      statement.addBefore clause (fragments arguments) := by
  rw [addBefore, ← RawText.pushAll_map_trim, map_trim_fragments, RawText.pushAll_map_trim,
    ← addBefore]

theorem addAfter_trimmed (clause : Clause) (arguments : List Argument) :
    statement.addAfter clause (fragments (arguments.map Argument.trimmed)) =
      statement.addAfter clause (fragments arguments) := by
  rw [addAfter, ← RawText.pushAll_map_trim, map_trim_fragments, RawText.pushAll_map_trim,
    ← addAfter]

/-- Whether a method puts a single argument inside the statement. -/
def putsInside (method : Method) : Bool :=
  match statement with
  | select .. => method.operation?.isSome
  | insert .. => method = .select
  | transaction .. => method.entryKind?.isSome
  | _ => false

variable {statement} {method : Method} {arguments : List Argument}

/-- Where nothing is put inside a statement, an ordinary method is given texts, and cannot fail. -/
theorem apply_eq_edit (ordinary : method.IsOrdinary) (silent : method.writes = false)
    (texts : statement.putsInside method = true → ∀ argument, arguments ≠ [argument]) :
    statement.apply method arguments = .ok (statement.edit method (fragments arguments)) := by
  unfold apply
  split
  iterate 3 exact ordinary.elim
  iterate 3 cases silent
  · exact ordinary.elim
  · split
    · split
      · rename_i adds
        exact absurd rfl (texts (by simp [putsInside, adds]) _)
      · rfl
    · split
      · rename_i adds
        exact absurd rfl (texts (by simp [putsInside, adds]) _)
      · rfl
    · split
      · rename_i adds
        exact absurd rfl (texts (by simp [putsInside, adds]) _)
      · rfl
    · rfl

/-- A text is refused inside a statement, whatever text it is. -/
theorem apply_singleton_trimmed (puts : statement.putsInside method = true)
    (argument : Argument) :
    statement.apply method [argument.trimmed] = statement.apply method [argument] := by
  unfold Argument.trimmed
  split
  · cases statement with
    | select | insert | transaction => cases method <;> first | rfl | cases puts
    | _ => cases puts
  · rfl

theorem apply_trimmedArguments (statement : Statement) (method : Method)
    (arguments : List Argument) :
    statement.apply method (method.trimmedArguments arguments) =
      statement.apply method arguments := by
  by_cases ordinary : method.IsOrdinary
  · cases writes : method.writes with
    | true => rw [Method.trimmedArguments_of_writes writes]
    | false =>
        rw [Method.trimmedArguments_of_isOrdinary ordinary writes]
        by_cases single : statement.putsInside method = true ∧ ∃ argument, arguments = [argument]
        · obtain ⟨puts, argument, rfl⟩ := single
          exact apply_singleton_trimmed puts argument
        · have texts : statement.putsInside method = true → ∀ argument, arguments ≠ [argument] :=
            fun puts argument same => single ⟨puts, argument, same⟩
          have texts' : statement.putsInside method = true →
              ∀ argument, arguments.map Argument.trimmed ≠ [argument] := by
            intro puts argument same
            obtain ⟨given, rfl, -⟩ := List.map_eq_singleton_iff.mp same
            exact texts puts given rfl
          rw [apply_eq_edit ordinary writes texts, apply_eq_edit ordinary writes texts',
            edit_trimmed]
  · cases method with
    | raw => exact congrArg Except.ok (addRaw_trimmed statement arguments)
    | rawBefore =>
        cases arguments with
        | nil => rfl
        | cons place texts =>
            simp only [Method.trimmedArguments, apply, addBefore_trimmed]
    | rawAfter =>
        cases arguments with
        | nil => rfl
        | cons place texts =>
            simp only [Method.trimmedArguments, apply, addAfter_trimmed]
    | withQuery =>
        match arguments with
        | [] => rfl
        | [name, query] =>
            have both : Method.withQuery.trimmedArguments [name, query] =
                [name.trimmed, query.trimmed] := rfl
            simp only [both, apply, Argument.operand_trimmed, Argument.trim_fragment_trimmed]
        | [_] | _ :: _ :: _ :: _ => cases statement <;> rfl
    | _ => exact absurd trivial ordinary

/-- Whether something is put inside, and otherwise all that is given to an ordinary method is asked
for its text. -/
theorem shownArguments_eq (ordinary : method.IsOrdinary) (silent : method.writes = false) :
    statement.shownArguments method arguments =
      if statement.putsInside method = true then [] else arguments := by
  unfold shownArguments
  split
  iterate 2 exact ordinary.elim
  iterate 3 cases silent
  · exact ordinary.elim
  · cases statement <;> first | rfl | simp [putsInside]

theorem map_course_trimmed (arguments : List Argument) :
    (arguments.map Argument.trimmed).map Argument.course = arguments.map Argument.course := by
  rw [List.map_map]
  exact List.map_congr_left fun argument _ => argument.course_trimmed

theorem shownCourses_place (statement : Statement) (place : Argument) (texts : List Argument) :
    (statement.shownArguments .rawBefore (place :: texts.map Argument.trimmed)).map
        Argument.course =
      (statement.shownArguments .rawBefore (place :: texts)).map Argument.course := by
  have placed (found : Bool) :
      (if found = true then texts.map Argument.trimmed else []).map Argument.course =
        (if found = true then texts else []).map Argument.course := by
    cases found
    · rfl
    · exact map_course_trimmed texts
  cases place with
  | member entry => exact placed _
  | value | command | fixed | statement | other =>
      simp only [shownArguments]
      split
      · rfl
      · rw [List.map_append, List.map_append, placed]

/-- What is asked for its text in a call is met alike. -/
theorem shownCourses_trimmedArguments (statement : Statement) (method : Method)
    (arguments : List Argument) :
    (statement.shownArguments method (method.trimmedArguments arguments)).map Argument.course =
      (statement.shownArguments method arguments).map Argument.course := by
  by_cases ordinary : method.IsOrdinary
  · cases writes : method.writes with
    | true => rw [Method.trimmedArguments_of_writes writes]
    | false =>
        rw [Method.trimmedArguments_of_isOrdinary ordinary writes,
          shownArguments_eq ordinary writes, shownArguments_eq ordinary writes]
        split
        · rfl
        · exact map_course_trimmed arguments
  · cases method with
    | raw => cases statement <;> exact map_course_trimmed arguments
    | rawBefore | rawAfter =>
        cases arguments with
        | nil => rfl
        | cons place texts => exact shownCourses_place statement place texts
    | withQuery =>
        match arguments with
        | [] => rfl
        | [name, query] => exact map_course_trimmed [name]
        | [name] => cases statement <;> exact map_course_trimmed [name]
        | first :: second :: third :: rest =>
            cases statement <;> exact map_course_trimmed (first :: second :: third :: rest)
    | _ => exact absurd trivial ordinary

theorem ownCourse_trimmedArguments (statement : Statement) (method : Method)
    (arguments : List Argument) :
    statement.ownCourse method (method.trimmedArguments arguments) =
      statement.ownCourse method arguments := by
  cases method <;> rfl

theorem callCourse_trimmedArguments (statement : Statement) (method : Method)
    (arguments : List Argument) :
    statement.callCourse method (method.trimmedArguments arguments) =
      statement.callCourse method arguments := by
  rw [callCourse, callCourse, Method.length_trimmedArguments, ownCourse_trimmedArguments,
    List.flatMap_def, List.flatMap_def, shownCourses_trimmedArguments]

/-- A call succeeds with trimmed texts where it does with the given ones, and returns the same. -/
theorem perform_trimmedArguments (statement : Statement) (method : Method)
    (arguments : List Argument) :
    statement.perform method (method.trimmedArguments arguments) =
      statement.perform method arguments := by
  rw [perform, perform, Method.length_trimmedArguments, callCourse_trimmedArguments,
    apply_trimmedArguments]

/-- A call leaves the same with trimmed texts as with the given ones, even if it fails. -/
theorem leftBy_trimmedArguments (statement : Statement) (method : Method)
    (arguments : List Argument) :
    statement.leftBy method (method.trimmedArguments arguments) =
      statement.leftBy method arguments := by
  rw [leftBy, leftBy, perform_trimmedArguments, callCourse_trimmedArguments,
    Method.takeWhile_trimmedArguments, during, during, apply_trimmedArguments]

end Statement
end SqlText
