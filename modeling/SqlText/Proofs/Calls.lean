import SqlText.Statement.Call

/-!
# What a call can change

A call that succeeds changes a statement in one of nine ways (`Statement.Change`), whatever method
it calls: it adds raw text, puts an operand inside the statement, or edits the statement's body.
`change_of_apply` reads the way off a successful call, with what the call has checked before, so
that a property of statements is kept by every call as soon as it is kept by each of the nine.

A call that fails leaves the statement as it was or as a shorter call would have left it
(`leftBy_cases`).
-/

set_option autoImplicit false

namespace SqlText

/-- Two steps one after the other succeed when both do. -/
theorem bind_eq_ok {ε α β : Type} {first : Except ε α} {next : α → Except ε β} {result : β} :
    first >>= next = .ok result ↔ ∃ value, first = .ok value ∧ next value = .ok result := by
  cases first with
  | error failure =>
      constructor
      · intro impossible
        cases impossible
      · rintro ⟨_, impossible, -⟩
        cases impossible
  | ok value =>
      constructor
      · intro succeeds
        exact ⟨value, rfl, succeeds⟩
      · rintro ⟨other, same, succeeds⟩
        cases same
        exact succeeds

/-- Only a statement is put inside a statement as one. -/
theorem Argument.eq_statement_of_operand? {argument : Argument} {inner : Statement}
    (embeddable : argument.operand? = some (.statement inner)) : argument = .statement inner := by
  cases argument with
  | statement other =>
      cases embeddable
      rfl
  | value | member | command | fixed | other => cases embeddable

theorem Argument.operand_eq_ok {argument : Argument} {host : Kind} {operand : Operand Statement}
    (found : argument.operand host = .ok operand) : argument.operand? = some operand := by
  rw [Argument.operand] at found
  split at found
  · cases found
    assumption
  · cases found

theorem Argument.statementOf_eq_ok {argument : Argument} {wanted host : Kind} {inner : Statement}
    (found : argument.statementOf wanted host = .ok inner) :
    argument = .statement inner ∧ inner.kind = wanted := by
  cases argument with
  | statement other =>
      simp only [Argument.statementOf] at found
      by_cases fits : other.kind = wanted
      · rw [if_pos fits] at found
        cases found
        exact ⟨rfl, fits⟩
      · rw [if_neg fits] at found
        cases found
  | value | member | command | fixed | other => cases found

namespace Statement

/-- The ways in which the call of a method with some arguments can change a statement. -/
inductive Change (method : Method) (arguments : List Argument) : Statement → Statement → Prop where
  /-- Nothing is changed. -/
  | same (statement : Statement) : Change method arguments statement statement
  | raw (statement : Statement) :
      Change method arguments statement (statement.addRaw (fragments arguments))
  | before {statement : Statement} {place : Argument} {texts : List Argument} {clause : Clause}
      (shape : arguments = place :: texts) (found : statement.clause place = .ok clause) :
      Change method arguments statement (statement.addBefore clause (fragments texts))
  | after {statement : Statement} {place : Argument} {texts : List Argument} {clause : Clause}
      (shape : arguments = place :: texts) (found : statement.clause place = .ok clause) :
      Change method arguments statement (statement.addAfter clause (fragments texts))
  | query (statement : Statement) {name query : Argument} {operand : Operand Statement}
      (shape : arguments = [name, query]) (embeddable : query.operand? = some operand) :
      Change method arguments statement (statement.addQuery name.fragment.trim operand)
  | operation (frame : Frame) (body : SelectBody) (queries : List (Text × Operand Statement))
      (operations : List (SetOperation × Operand Statement)) {operation : SetOperation}
      {argument : Argument} {operand : Operand Statement} (shape : arguments = [argument])
      (adds : method.operation? = some operation) (embeddable : argument.operand? = some operand) :
      Change method arguments (select frame body queries operations)
        (select frame body queries (operations ++ [(operation, operand)]))
  | source (frame : Frame) (body : InsertBody) (queries : List (Text × Operand Statement))
      (old : Option Statement) {inner : Statement} (shape : arguments = [.statement inner])
      (fits : inner.kind = .select) :
      Change method arguments (insert frame body queries old)
        (insert frame body queries (some inner))
  | entry (frame : Frame) (body : TransactionBody) (entries : List (Operand Statement))
      {inner : Statement} (shape : arguments = [.statement inner])
      (fits : method.entryKind? = some inner.kind) :
      Change method arguments (transaction frame body entries)
        (transaction frame body (entries ++ [.statement inner]))
  | edit (statement : Statement) :
      Change method arguments statement (statement.edit method (fragments arguments))

/-- A call that succeeds changes the statement in one of the nine ways. -/
theorem change_of_apply {statement changed : Statement} {method : Method}
    {arguments : List Argument} (succeeds : statement.apply method arguments = .ok changed) :
    Change method arguments statement changed := by
  unfold apply at succeeds
  split at succeeds
  · cases succeeds
    exact .raw _
  · obtain ⟨clause, found, result⟩ := bind_eq_ok.mp succeeds
    cases result
    exact .before rfl found
  · obtain ⟨clause, found, result⟩ := bind_eq_ok.mp succeeds
    cases result
    exact .after rfl found
  · cases succeeds
  · split at succeeds
    · cases succeeds
    · cases succeeds
      exact .same _
  · split at succeeds
    · cases succeeds
    · cases succeeds
      exact .same _
  · obtain ⟨operand, found, result⟩ := bind_eq_ok.mp succeeds
    cases result
    exact .query _ rfl (Argument.operand_eq_ok found)
  -- What is left puts something inside a SELECT, an INSERT or a script, or gives texts only.
  · split at succeeds
    · split at succeeds
      · obtain ⟨operand, found, result⟩ := bind_eq_ok.mp succeeds
        cases result
        exact .operation _ _ _ _ rfl (by assumption) (Argument.operand_eq_ok found)
      · cases succeeds
        exact .edit _
    · split at succeeds
      · obtain ⟨inner, found, result⟩ := bind_eq_ok.mp succeeds
        obtain ⟨rfl, fits⟩ := Argument.statementOf_eq_ok found
        cases result
        exact .source _ _ _ _ rfl fits
      · cases succeeds
        exact .edit _
    · split at succeeds
      · obtain ⟨inner, found, result⟩ := bind_eq_ok.mp succeeds
        obtain ⟨rfl, fits⟩ := Argument.statementOf_eq_ok found
        cases result
        refine .entry _ _ _ rfl ?_
        rw [fits]
        assumption
      · cases succeeds
        exact .edit _
    · cases succeeds
      exact .edit _

/-- A call that succeeds has arguments that fit in number. -/
theorem perform_eq_ok {statement changed : Statement} {method : Method}
    {arguments : List Argument} (succeeds : statement.perform method arguments = .ok changed) :
    (statement.kind.arity method).fits arguments.length = true ∧
      statement.apply method arguments = .ok changed := by
  rw [perform] at succeeds
  split at succeeds
  · obtain ⟨_, -, applied⟩ := bind_eq_ok.mp succeeds
    exact ⟨by assumption, applied⟩
  · cases succeeds

/-- A call leaves the statement as it was, or as it is after the call of the same method with some
of the first arguments. These may be fewer than the method takes only if it takes any number. -/
theorem leftBy_cases (statement : Statement) (method : Method) (arguments : List Argument) :
    statement.leftBy method arguments = statement ∨
      ∃ given, given <+: arguments ∧
        ((statement.kind.arity method).fits given.length = true ∨
          statement.takesEach method = true) ∧
        statement.apply method given = .ok (statement.leftBy method arguments) := by
  have during : ∀ given : List Argument, given <+: arguments →
      statement.during method given = statement ∨
        ∃ taken, taken <+: arguments ∧
          ((statement.kind.arity method).fits taken.length = true ∨
            statement.takesEach method = true) ∧
          statement.apply method taken = .ok (statement.during method given) := by
    intro given first
    rw [Statement.during]
    split
    · rename_i each
      cases result : statement.apply method given with
      | error failure => exact .inl rfl
      | ok changed => exact .inr ⟨given, first, .inr each, result⟩
    · exact .inl rfl
  rw [leftBy]
  cases result : statement.perform method arguments with
  | ok changed =>
      obtain ⟨fits, applied⟩ := perform_eq_ok result
      exact .inr ⟨arguments, List.prefix_refl _, .inl fits, applied⟩
  | error failure =>
      simp only
      split
      · exact during _ (List.takeWhile_prefix _)
      · exact .inl rfl

/-- What a successful call returns is what it leaves. -/
theorem leftBy_of_perform {statement changed : Statement} {method : Method}
    {arguments : List Argument} (succeeds : statement.perform method arguments = .ok changed) :
    statement.leftBy method arguments = changed := by
  rw [leftBy, succeeds]

/-! ## Methods that are named -/

/-- Statements of the kind have the method, and so does the dialect. -/
structure Offers (kind : Kind) (dialect : Dialect) (method : Method) : Prop where
  present : kind.access method ≠ .absent
  offered : ∀ feature, kind.access method = .gated feature → dialect.supports feature = true

/-- A method is found by one of its names where the kind has it and the dialect offers it. -/
theorem method_eq_ok {statement : Statement} {name : Text} {method : Method}
    (found : statement.method name = .ok method) :
    Method.ofName? name = some method ∧ statement.kind.access method ≠ .absent ∧
      ∀ feature, statement.kind.access method = .gated feature →
        statement.dialect.supports feature = true := by
  rw [Statement.method] at found
  split at found
  · cases found
  · rename_i known
    split at found
    · cases found
    · rename_i free
      cases found
      exact ⟨known, by simp [free], by simp [free]⟩
    · rename_i feature gated
      split at found
      · rename_i offered
        cases found
        refine ⟨known, by simp [gated], fun other same => ?_⟩
        rw [gated] at same
        cases same
        exact offered
      · cases found

/-! ## Clauses that are named -/

/-- A clause that is found by its name is one of the kind's clauses. -/
theorem mem_clauses_of_clause? {kind : Kind} {name : Text} {clause : Clause}
    (found : kind.clause? name = some clause) : clause ∈ kind.clauses :=
  List.mem_of_find?_eq_some found

/-- A member of the enumeration of a kind's clauses is one of them. -/
theorem mem_clauses_of_mem_all {kind : Kind} {clause : Clause}
    (known : Member.clause kind clause ∈ Member.all) : clause ∈ kind.clauses := by
  simp only [Member.all, List.mem_append, List.mem_flatMap, List.mem_map, Member.clause.injEq,
    reduceCtorEq, and_false, exists_false, or_false, List.mem_cons, List.not_mem_nil] at known
  obtain ⟨other, -, place, among, rfl, rfl⟩ := known
  exact among

theorem mem_clauses_of_namedClause {statement : Statement} {place : Argument} {clause : Clause}
    (real : ∀ entry, place = .member entry → entry ∈ Member.all)
    (found : statement.namedClause place = .ok clause) : clause ∈ statement.kind.clauses := by
  cases place with
  | member entry =>
      cases entry with
      | clause kind other =>
          simp only [namedClause] at found
          split at found
          · rename_i fits
            cases found
            exact fits ▸ mem_clauses_of_mem_all (real _ rfl)
          · cases found
      | feature | command | operator => cases found
  | value | command | fixed | statement | other =>
      simp only [namedClause] at found
      split at found
      · rename_i byName
        cases found
        exact mem_clauses_of_clause? byName
      · cases found

/-- A clause is found when it is named and the dialect has it. -/
theorem clause_eq_ok {statement : Statement} {place : Argument} {clause : Clause}
    (found : statement.clause place = .ok clause) :
    statement.namedClause place = .ok clause ∧
      statement.dialect.offers (statement.kind.gate clause) = true := by
  obtain ⟨named, looked, rest⟩ := bind_eq_ok.mp found
  split at rest
  · rename_i feature gated
    split at rest
    · cases rest
      rw [gated]
      exact ⟨looked, by assumption⟩
    · cases rest
  · rename_i free
    cases rest
    rw [free]
    exact ⟨looked, rfl⟩

/-- A clause that raw text can be attached to is one of the kind's clauses. -/
theorem mem_clauses_of_clause {statement : Statement} {place : Argument} {clause : Clause}
    (real : ∀ entry, place = .member entry → entry ∈ Member.all)
    (found : statement.clause place = .ok clause) : clause ∈ statement.kind.clauses :=
  mem_clauses_of_namedClause real (clause_eq_ok found).1

end Statement
end SqlText
