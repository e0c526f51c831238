import SqlText.Proofs.Combining
import SqlText.Proofs.Isolation.Basic

/-!
# Calls, copies, and a query united with itself

After a call every name of the called object stands for it in its new state
(`Session.find?_callStatement`), and a copy is an object of its own, with the state of the one that
is called (`Session.session_call_copy`).

The case that is the most likely to go wrong is an object that is put inside itself. A query that is
united with itself stands on the right side as it was before the call, so the whole is the text of
the query twice, in parentheses (`Statement.render_with_itself`, `Session.answer_render_union`).
-/

set_option autoImplicit false

namespace SqlText

open Text

/-! ## Copies -/

namespace Statement

/-- A copy has the state of the statement that is called. -/
theorem perform_copy (statement : Statement) : statement.perform .copy [] = .ok statement := by
  cases statement <;> rfl

theorem method_copy (statement : Statement) {name : Text}
    (named : Method.ofName? name = some .copy) : statement.method name = .ok .copy := by
  have access : statement.kind.access .copy = .always := rfl
  rw [method, named]
  simp only [access]

end Statement

namespace Session

variable {session : Session} {id : Nat} {statement : Statement}

/-- A call of the copying method adds an object with the state of the one that is called. -/
theorem session_call_copy (here : session.objects[id]? = some (.statement statement))
    (quiet : Bool) {name : Text} (named : Method.ofName? name = some .copy)
    (result : Option Text) :
    (session.callStatement quiet id statement name [] result).session =
      session.add result (.statement statement) := by
  have shape := callStatement_of_performed (statement.method_copy named)
    (show session.mentions id [] = .ok [] from rfl) statement.perform_copy quiet result
  rw [shape]
  simp only [Method.returned?, session_returnsNew, replace_self here]

/-! ## Names of the called object -/

/-- The step of a call on a statement. -/
theorem step_call {quiet : Bool} {target name : Text}
    (found : session.find? target = some (id, .statement statement)) (inputs : List Input)
    (result : Option Text) :
    session.step quiet (.call target (.text name) inputs result) =
      session.callStatement quiet id statement name inputs result := by
  simp only [step, call, found]

/-- After a call every name of the called object stands for it in its new state. -/
theorem find?_callStatement (here : session.objects[id]? = some (.statement statement))
    {quiet : Bool} {method name : Text} {inputs : List Input} {result : Option Text}
    (bound : (session.callStatement quiet id statement method inputs result).session.names.lookup
      name = some id) :
    (session.callStatement quiet id statement method inputs result).session.find? name =
      some (id, .statement (session.calledState id statement method inputs)) :=
  find?_eq_some.mpr ⟨bound, objects_callStatement here quiet method inputs result⟩

/-- The name that is given to a returned object that is the called one stands for it. -/
theorem lookup_of_isSame (here : session.objects[id]? = some (.statement statement))
    {quiet : Bool} {method name : Text} {inputs : List Input} {text : Option Text}
    (answered : (session.callStatement quiet id statement method inputs (some name)).answer =
      .ok (.called text true)) :
    (session.callStatement quiet id statement method inputs (some name)).session.names.lookup
      name = some id := by
  rcases callStatement_cases here quiet method inputs (some name) with
    ⟨failure, events, shape⟩ | ⟨object, events, shape, -⟩ | ⟨changed, events, shape⟩
  · rw [shape] at answered
    cases answered
  · rw [shape] at answered
    cases isSame_of_returns answered
  · rw [shape, session_returnsSame]
    exact List.lookup_cons_self

theorem lookup_bind (session : Session) {name : Text} (bound : session.names.lookup name = some id)
    (result : Option Text) : (session.bind result id).names.lookup name = some id := by
  cases result with
  | none => exact bound
  | some other =>
      by_cases same : other = name
      · rw [same]
        exact List.lookup_cons_self
      · exact (lookup_cons_of_ne same _ _).trans bound

end Session

/-! ## A query united with itself -/

theorem Text.trim_trimEnd (text : Text) : text.trimEnd.trim = text.trim := by
  obtain ⟨back, blank, whole⟩ := exists_eq_trimEnd text
  calc text.trimEnd.trim = (text.trimEnd ++ back).trim := (trim_append_right blank _).symm
    _ = text.trim := by rw [← whole]

namespace Combination

section Bare

variable {κ : Type} {combination : Combination κ}
variable (before : ∀ key, combination.before key = []) (after : ∀ key, combination.after key = [])
include before after

theorem isKept_of_bare : combination.IsKept where
  before key text member := by
    rw [before key] at member
    cases member
  after key text member := by
    rw [after key] at member
    cases member

variable [DecidableEq κ]

theorem unusedTail_of_bare (layout : Layout) (keys used : List κ) :
    combination.unusedTail layout keys used = [] := by
  rw [unusedTail, List.flatMap_eq_nil_iff.mpr, preceded_nil]
  exact fun key _ => List.append_eq_nil_iff.mpr ⟨before key, after key⟩

/-- Where there is no raw text, one operation puts both sides in parentheses, with the keyword
between them. -/
theorem trimEnd_render_one {layout : Layout} (space : AllBlank layout.space)
    (lineBreak : AllBlank layout.lineBreak) (keys : List κ) (key : κ) {text operand : Text}
    (left : text.trim ≠ []) (right : operand.trim ≠ []) :
    (combination.render layout keys text [(key, operand)]).trimEnd =
      '(' :: text.trim ++ ')' :: layout.space ++ layout.lineBreak ++ combination.keyword key ++
        layout.space ++ '(' :: operand.trim ++ [')'] := by
  have kept := isKept_of_bare before after
  have fragment : IsFragment text.trim := isFragment_trim left
  have opening : combination.opening [] key = [] := before key
  have ending : combination.ending [] key = [] := after key
  have shape : combination.leftSide layout [] text key = text.trim := by
    rw [combination.leftSide_eq kept space fragment [] key, opening, preceded_nil, List.append_nil]
  have visible : ∀ other ∈ [(key, operand)], other.2.trim ≠ [] := by
    intro other member
    rw [List.mem_singleton.mp member]
    exact right
  rw [render_of_left kept space lineBreak keys fragment shape visible,
    unusedTail_of_bare before after]
  simp only [List.map_nil, tails, closing, ending, preceded_nil, Layout.terminator]
  simp only [List.length_nil, Nat.zero_add, List.replicate_one, List.append_assoc,
    List.cons_append, List.nil_append, List.append_nil]

end Bare

end Combination

namespace Statement

section Itself

variable {frame : Frame} {body : SelectBody} {queries : List (Text × Operand Statement)}
variable (supported : frame.dialect.supports .setOperations = true)
include supported

theorem method_union (operations : List (SetOperation × Operand Statement)) :
    (select frame body queries operations).method "union".toList = .ok .union := by
  have known : Method.ofName? "union".toList = some .union := by decide
  have gated : Kind.select.access .union = .gated .setOperations := rfl
  rw [method, known]
  simp only [kind, gated, dialect, Statement.frame, supported, if_true]

/-- A query without operations that is combined with itself: its text stands on both sides. -/
theorem render_with_itself {layout : Layout} (operation : SetOperation)
    (before : ∀ other : SetOperation, frame.before.get other.clause = [])
    (after : ∀ other : SetOperation, frame.after.get other.clause = [])
    (space : AllBlank layout.space) (lineBreak : AllBlank layout.lineBreak)
    (visible : ((select frame body queries []).render layout).trim ≠ []) :
    let text := ((select frame body queries []).render layout).trim
    (select frame body queries
        [(operation, .statement (select frame body queries []))]).render layout =
      '(' :: text ++ ')' :: layout.space ++ layout.lineBreak ++ operation.word ++ layout.space ++
        '(' :: text ++ [')'] := by
  intro text
  have written : (select frame body queries []).written layout =
      frame.render layout .select (body.outline (queryTexts layout.nested queries)) := by
    rw [written, SelectBody.render, if_pos supported, operationTexts,
      frame.combination_render_nil layout _ before after]
  have clauses : ((select frame body queries []).written layout).trim = text :=
    (trim_trimEnd _).symm
  have both : (select frame body queries
        [(operation, .statement (select frame body queries []))]).written layout =
      frame.combination.render layout SetOperation.all
        ((select frame body queries []).written layout)
        [(operation, (select frame body queries []).render layout)] := by
    rw [written, Statement.written, SelectBody.render, if_pos supported, operationTexts,
      operandText_statement, operationTexts]
  have bareBefore : ∀ other, frame.combination.before other = [] := before
  have bareAfter : ∀ other, frame.combination.after other = [] := after
  have left : ((select frame body queries []).written layout).trim ≠ [] := clauses.trans_ne visible
  rw [render, both, Combination.trimEnd_render_one bareBefore bareAfter space lineBreak _ operation
    left visible, clauses]
  rfl

/-- A query that is combined with itself can be written where it can be written alone. -/
theorem failure?_with_itself {given : LayoutParts} (operation : SetOperation)
    (alone : ((select frame body queries []).course given).failure? = none) :
    ((select frame body queries
      [(operation, .statement (select frame body queries []))]).course given).failure? = none := by
  have segments := alone
  rw [course, if_pos supported, operationCourse, List.append_nil, Course.failure?_append,
    Option.or_eq_none_iff] at segments
  rw [course, if_pos supported, operationCourse, operandCourse, operationCourse]
  simp only [Course.failure?_append, segments.1, alone, Course.failure?]
  rfl

end Itself

end Statement

namespace Session

variable {session : Session} {id : Nat} {statement : Statement}

/-- A name of the called object among the inputs mentions the statement that is called. -/
theorem mentions_itself {name : Text} {object : Object}
    (found : session.find? name = some (id, object)) :
    session.mentions id [.reference name] = .ok [.itself] := by
  have known : session.find name = .ok (id, object) := by
    rw [find, found]
  rw [mentions, mention, known]
  change Except.ok [if id = id then Mention.itself else .argument object.argument] = _
  rw [if_pos rfl]

/-- A query that is united with itself has what it was before inside. -/
theorem session_call_union {frame : Frame} {body : SelectBody}
    {queries : List (Text × Operand Statement)} {name : Text}
    (found : session.find? name = some (id, .statement (.select frame body queries [])))
    (supported : frame.dialect.supports .setOperations = true) (quiet : Bool)
    (result : Option Text) :
    (session.callStatement quiet id (.select frame body queries []) "union".toList
        [.reference name] result).session =
      (session.replace id (.statement (.select frame body queries
        [(.union, .statement (.select frame body queries []))]))).bind result id := by
  have performed : Statement.perform (.select frame body queries []) .union
      [.statement (.select frame body queries [])] =
        .ok (.select frame body queries [(.union, .statement (.select frame body queries []))]) :=
    rfl
  have shape := callStatement_of_performed (Statement.method_union supported [])
    (mentions_itself found) performed quiet result
  rw [shape]
  simp only [Method.returned?, session_returnsSame]

/-- A text that a rendering answers with is that of the statement. -/
theorem answer_render_eq_ok {name text : Text} {layout : LayoutSource} {given : LayoutParts}
    {method : Text} (found : session.find? name = some (id, .statement statement))
    (resolved : layout.resolve = .ok given) :
    (session.render name layout method .text).answer = .ok (.text text) ↔
      (statement.course given).failure? = none ∧ statement.render given.shown = text := by
  simp only [render, found, resolved, Course.result]
  cases (statement.course given).failure? with
  | none => simp
  | some failure => simp

/-- The rendering of a query that has been united with itself. -/
theorem answer_render_union {frame : Frame} {body : SelectBody}
    {queries : List (Text × Operand Statement)} {target text : Text} {layout : LayoutSource}
    {given : LayoutParts} {quiet : Bool}
    (found : session.find? target = some (id, .statement (.select frame body queries [])))
    (supported : frame.dialect.supports .setOperations = true)
    (bare : ∀ operation : SetOperation, frame.before.get operation.clause = [] ∧
      frame.after.get operation.clause = [])
    (resolved : layout.resolve = .ok given) (space : AllBlank given.shown.space)
    (lineBreak : AllBlank given.shown.lineBreak)
    (answered : (session.step quiet (.render target layout)).answer = .ok (.text text))
    (visible : text.trim ≠ []) (result : Option Text) :
    let called := (session.step quiet
      (.call target (.text "union".toList) [.reference target] result)).session
    (called.step quiet (.render target layout)).answer =
      .ok (.text ('(' :: text.trim ++ ')' :: given.shown.space ++ given.shown.lineBreak ++
        "UNION".toList ++ given.shown.space ++ '(' :: text.trim ++ [')'])) := by
  intro called
  obtain ⟨bound, here⟩ := find?_eq_some.mp found
  obtain ⟨written, rfl⟩ := (answer_render_eq_ok found resolved).mp answered
  have inside : id < session.objects.length := (List.getElem?_eq_some_iff.mp here).1
  have shape : called = _ := (congrArg Outcome.session (step_call found _ _)).trans
    (session_call_union found supported quiet result)
  have after : called.find? target = some (id, .statement (.select frame body queries
      [(.union, .statement (.select frame body queries []))])) := by
    rw [shape]
    refine find?_eq_some.mpr ⟨lookup_bind (session.replace id _) bound result, ?_⟩
    exact (OthersKept.bind none result _ id).objects id _ nofun (List.getElem?_set_self inside)
  refine (answer_render_eq_ok after resolved).mpr
    ⟨Statement.failure?_with_itself supported .union written, ?_⟩
  exact Statement.render_with_itself supported .union (fun other => (bare other).1)
    (fun other => (bare other).2) space lineBreak visible

end Session
end SqlText
