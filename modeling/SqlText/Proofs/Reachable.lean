import SqlText.Proofs.Invariant
import SqlText.Statement.Create

/-!
# Statements that come about

A statement comes about by being asked for, by calls, successful or not, and by being given another
dialect, in any order and any number of times (`Statement.Reachable`). The arguments of a call are
whatever there is to give: any plain values, the members of the enumerations, and statements that
have come about themselves.

What new statements have, and calls and other dialects keep, is so of whatever comes about and of
everything inside it (`Statement.Reachable.everywhere`). That they are valid is of this sort
(`Statement.Reachable.isValid`).
-/

set_option autoImplicit false

namespace SqlText.Statement

/-! ## Operands after a change -/

theorem mem_operands_edit {statement inner : Statement} {method : Method} {texts : List Text}
    (member : Operand.statement inner ∈ (statement.edit method texts).operands) :
    Operand.statement inner ∈ statement.operands := by
  cases statement with
  | transaction frame body entries =>
      simp only [Statement.edit] at member
      split at member
      · rcases List.mem_append.mp member with old | new
        · exact old
        · cases List.mem_singleton.mp new
      · exact member
  | select | insert | update | delete => exact member
  | values | createTable | dropTable | dropIndex | createIndex | alterTable => cases member

theorem mem_operands_addQuery {statement inner : Statement} {name : Text}
    {query : Operand Statement}
    (member : Operand.statement inner ∈ (statement.addQuery name query).operands) :
    Operand.statement inner ∈ statement.operands ∨ query = .statement inner := by
  cases statement with
  | select | insert =>
      simp only [addQuery, operands, List.map_append, List.map_cons, List.map_nil,
        List.mem_append, List.mem_singleton] at member ⊢
      rcases member with (old | new) | other
      · exact .inl (.inl old)
      · exact .inr new.symm
      · exact .inl (.inr other)
  | update | delete =>
      simp only [addQuery, operands, List.map_append, List.map_cons, List.map_nil,
        List.mem_append, List.mem_singleton] at member ⊢
      exact member.imp_right Eq.symm
  | values | createTable | dropTable | dropIndex | createIndex | alterTable => cases member
  | transaction => exact .inl member

/-! ## What a change keeps -/

theorem IsValid.addQuery {statement : Statement} (valid : statement.IsValid) {name : Text}
    (trimmed : IsValue name) (query : Operand Statement) :
    (statement.addQuery name query).IsValid := by
  have names : ∀ other ∈ statement.queries ++ [(name, query)], IsValue other.1 := by
    intro other member
    rcases List.mem_append.mp member with old | new
    · exact valid.names other old
    · rw [List.mem_singleton.mp new]
      exact trimmed
  cases statement with
  | select | insert | update | delete => exact ⟨valid.frame, valid.body, names, nofun⟩
  | values | createTable | dropTable | dropIndex | createIndex | alterTable | transaction =>
      exact valid

theorem isValid_of_change {statement changed : Statement} {method : Method}
    {arguments : List Argument} (valid : statement.IsValid)
    (real : ∀ entry, .member entry ∈ arguments → entry ∈ Member.all)
    (change : Change method arguments statement changed) : changed.IsValid := by
  cases change with
  | same => exact valid
  | raw => exact valid.withFrame { valid.frame with raw := valid.frame.raw.pushAll _ }
  | before shape found =>
      have known := mem_clauses_of_clause
        (fun entry same => real entry (by simp [shape, same])) found
      exact valid.withFrame { valid.frame with before := valid.frame.before.pushAll known _ }
  | after shape found =>
      have known := mem_clauses_of_clause
        (fun entry same => real entry (by simp [shape, same])) found
      exact valid.withFrame { valid.frame with after := valid.frame.after.pushAll known _ }
  | query => exact valid.addQuery (isValue_trim _) _
  | operation => exact ⟨valid.frame, valid.body, valid.names, nofun⟩
  | source => exact ⟨valid.frame, valid.body, valid.names, nofun⟩
  | entry frame body entries shape fits =>
      refine ⟨valid.frame, valid.body, nofun, ?_⟩
      intro command member
      rcases List.mem_append.mp member with old | new
      · exact valid.commands command old
      · cases List.mem_singleton.mp new
  | edit => exact valid.edit _ _

/-- What a change puts inside a statement is among the arguments. -/
theorem mem_operands_of_change {statement changed inner : Statement} {method : Method}
    {arguments : List Argument} (change : Change method arguments statement changed)
    (member : Operand.statement inner ∈ changed.operands) :
    Operand.statement inner ∈ statement.operands ∨ Argument.statement inner ∈ arguments := by
  cases change with
  | same => exact .inl member
  | raw | before | after => exact .inl (by simpa only [addRaw, addBefore, addAfter,
      operands_withFrame] using member)
  | query _ shape embeddable =>
      rcases mem_operands_addQuery member with old | rfl
      · exact .inl old
      · rw [shape, Argument.eq_statement_of_operand? embeddable]
        exact .inr (List.mem_cons_of_mem _ List.mem_cons_self)
  | operation frame body queries operations shape adds embeddable =>
      simp only [operands, List.map_append, List.map_cons, List.map_nil, List.mem_append,
        List.mem_singleton] at member ⊢
      rcases member with query | old | rfl
      · exact .inl (.inl query)
      · exact .inl (.inr old)
      · rw [shape, Argument.eq_statement_of_operand? embeddable]
        exact .inr List.mem_cons_self
  | source frame body queries old shape fits =>
      rcases List.mem_append.mp member with query | new
      · exact .inl (List.mem_append_left _ query)
      · cases List.mem_singleton.mp new
        rw [shape]
        exact .inr List.mem_cons_self
  | entry frame body entries shape fits =>
      rcases List.mem_append.mp member with old | new
      · exact .inl old
      · cases List.mem_singleton.mp new
        rw [shape]
        exact .inr List.mem_cons_self
  | edit => exact .inl (mem_operands_edit member)

/-! ## Invariants -/

/-- A property that new statements have, and that calls and other dialects keep. It is said of a
statement alone, whatever is inside it. -/
structure IsInvariant (holds : Statement → Prop) : Prop where
  empty (kind : Kind) (dialect : Dialect) : holds (empty kind dialect)
  edit {statement : Statement} (method : Method) (texts : List Text) :
    holds statement → holds (statement.edit method texts)
  change {statement changed : Statement} {method : Method} {arguments : List Argument}
    (real : ∀ entry, .member entry ∈ arguments → entry ∈ Member.all) :
    Change method arguments statement changed → holds statement → holds changed
  withDialect {statement : Statement} (dialect : Dialect) :
    holds statement → holds (statement.withDialect dialect)

theorem isInvariant_isValid : IsInvariant IsValid where
  empty := isValid_empty
  edit method texts valid := valid.edit method texts
  change real change valid := isValid_of_change valid real change
  withDialect _ valid := valid.withFrame { valid.frame with }

/-! ## What comes about -/

/-- A new statement is the one that the request asks for, under the dialect that was found. -/
theorem eq_statement_of_create {request : Request} {registry : Registry} {statement : Statement}
    (made : request.create registry = .ok statement) :
    ∃ found, request.dialect.resolve registry = .ok found ∧
      found.dialect.offers request.kind.requirement = true ∧
      statement = request.statement found.dialect := by
  obtain ⟨_, -, rest⟩ := bind_eq_ok.mp made
  obtain ⟨found, resolved, rest⟩ := bind_eq_ok.mp rest
  split at rest
  · rename_i offered
    cases rest
    exact ⟨found, resolved, offered, rfl⟩
  · cases rest

/-- The statements that come about. -/
inductive Reachable : Statement → Prop where
  /-- A new statement, be it asked for directly or through a factory. -/
  | created {request : Request} {registry : Registry} {statement : Statement}
      (made : request.create registry = .ok statement) : Reachable statement
  /-- What a call leaves, even if it fails. -/
  | called {statement : Statement} (name : Text) {method : Method} (arguments : List Argument)
      (reachable : Reachable statement) (found : statement.method name = .ok method)
      (real : ∀ entry, .member entry ∈ arguments → entry ∈ Member.all)
      (inside : ∀ inner, .statement inner ∈ arguments → Reachable inner) :
      Reachable (statement.leftBy method arguments)
  /-- A statement under another dialect. -/
  | rededicated {statement : Statement} (dialect : Dialect) (reachable : Reachable statement) :
      Reachable (statement.withDialect dialect)

namespace Reachable

/-- What a successful call returns comes about. -/
theorem call {statement changed : Statement} {name : Text} {arguments : List Argument}
    (reachable : Reachable statement)
    (real : ∀ entry, .member entry ∈ arguments → entry ∈ Member.all)
    (inside : ∀ inner, .statement inner ∈ arguments → Reachable inner)
    (succeeds : statement.call name arguments = .ok changed) : Reachable changed := by
  obtain ⟨method, found, performed⟩ := bind_eq_ok.mp succeeds
  rw [← leftBy_of_perform performed]
  exact .called name arguments reachable found real inside

/-- So does what is returned in the end by calls that succeed one after another. -/
theorem foldlM_call {calls : List (Text × List Argument)} {statement changed : Statement}
    (reachable : Reachable statement)
    (real : ∀ call ∈ calls, ∀ entry, .member entry ∈ call.2 → entry ∈ Member.all)
    (inside : ∀ call ∈ calls, ∀ inner, .statement inner ∈ call.2 → Reachable inner)
    (succeed : calls.foldlM (fun statement call => statement.call call.1 call.2) statement =
      .ok changed) : Reachable changed := by
  induction calls generalizing statement with
  | nil =>
      cases succeed
      exact reachable
  | cons first rest ih =>
      rw [List.forall_mem_cons] at real inside
      rw [List.foldlM_cons] at succeed
      obtain ⟨next, succeeds, others⟩ := bind_eq_ok.mp succeed
      exact ih (reachable.call real.1 inside.1 succeeds) real.2 inside.2 others

/-- What is invariant holds of whatever comes about, and of everything inside it. -/
theorem everywhere {holds : Statement → Prop} (invariant : IsInvariant holds)
    {statement : Statement} (reachable : Reachable statement) : Everywhere holds statement := by
  induction reachable with
  | @created request registry statement made =>
      obtain ⟨found, -, -, shape⟩ := eq_statement_of_create made
      have fresh : Everywhere holds (empty request.kind found.dialect) := by
        refine .intro (invariant.empty _ _) fun inner member => ?_
        cases kind : request.kind <;> rw [kind] at member <;> cases member
      rw [shape, Request.statement]
      split
      · exact .intro (invariant.edit _ _ fresh.here) fun inner member =>
          fresh.inside inner (mem_operands_edit member)
      · exact fresh
  | @called statement name method arguments _ _ real _ ih inside =>
      rcases leftBy_cases statement method arguments with same | ⟨given, first, -, applied⟩
      · rw [same]
        exact ih
      · have change := change_of_apply applied
        have real' : ∀ entry, .member entry ∈ given → entry ∈ Member.all :=
          fun entry member => real entry (first.subset member)
        refine .intro (invariant.change real' change ih.here) fun inner member => ?_
        rcases mem_operands_of_change change member with old | new
        · exact ih.inside inner old
        · exact inside inner (first.subset new)
  | rededicated dialect _ ih =>
      refine .intro (invariant.withDialect dialect ih.here) fun inner member => ?_
      rw [withDialect, operands_withFrame] at member
      exact ih.inside inner member

/-- What comes about is valid, and so is everything inside it. -/
theorem isValid {statement : Statement} (reachable : Reachable statement) :
    Everywhere IsValid statement :=
  reachable.everywhere isInvariant_isValid

end Reachable

/-! ## A statement with another one inside -/

/-- Two columns, asked for in the generic dialect. -/
def twoColumns : Statement :=
  select { dialect := .generic } { columns := ["a".toList, "b".toList] } [] []

/-- Two columns united with two columns. -/
def united : Statement :=
  select { dialect := .generic } { columns := ["a".toList, "b".toList] } []
    [(.union, .statement twoColumns)]

theorem reachable_twoColumns : twoColumns.Reachable := by
  have made : Request.create ⟨.select, [.value (.text "a".toList), .value (.text "b".toList)],
      .dialect .generic, []⟩ .builtIn = .ok twoColumns := rfl
  exact .created made

theorem reachable_united : united.Reachable := by
  have succeeds : twoColumns.call "union".toList [.statement twoColumns] = .ok united := rfl
  refine reachable_twoColumns.call ?_ ?_ succeeds
  · intro entry member
    cases List.mem_singleton.mp member
  · intro inner member
    cases List.mem_singleton.mp member
    exact reachable_twoColumns

end SqlText.Statement
