import SqlText.Proofs.Atomicity
import SqlText.Proofs.Opening
import SqlText.Store.Basic

/-!
# What is inside and what is outside

A call either puts something inside a statement or changes the clauses that the statement keeps
itself. In the first case it does to the statement what `Statement.put` does
(`Statement.leftBy_of_held?`). In the second it does not look at what is inside, so it can as well
be done before that was put there (`Statement.leftBy_put`). Whether it fails depends in both cases
on the kind and on the dialect of the statement alone (`Statement.isOk_perform_foldl_put`).
-/

set_option autoImplicit false

namespace SqlText

/-! ## Something else in the place of the statements -/

namespace Held

variable {σ τ υ : Type}

theorem statement?_map (stands : σ → τ) (held : Held σ) :
    (held.map stands).statement? = held.statement?.map stands := by
  cases held with
  | source => rfl
  | query _ operand | operation _ operand | entry operand => cases operand <;> rfl

theorem map_map (stands : σ → τ) (again : τ → υ) (held : Held σ) :
    (held.map stands).map again = held.map (again ∘ stands) := by
  cases held with
  | source => rfl
  | query _ operand | operation _ operand | entry operand => cases operand <;> rfl

theorem map_congr {stands other : σ → τ} {held : Held σ}
    (same : ∀ inner, held.statement? = some inner → stands inner = other inner) :
    held.map stands = held.map other := by
  cases held with
  | source inner => exact congrArg Held.source (same inner rfl)
  | query _ operand | operation _ operand | entry operand =>
      cases operand with
      | statement inner => simp only [map, Operand.map, same inner rfl]
      | command | fixed => rfl

/-- A call puts the same inside a statement, whatever stands for the statements. -/
theorem ofCall?_map (stands : σ → τ) (kind : Kind) (method : Method) (texts : List Text)
    (operands : List (Option (Operand σ))) :
    ofCall? kind method texts (operands.map (Option.map (Operand.map stands))) =
      (ofCall? kind method texts operands).map (map stands) := by
  by_cases query : method = .withQuery
  · subst query
    rcases operands with _ | ⟨first, _ | ⟨_ | given, _ | ⟨third, rest⟩⟩⟩ <;> rfl
  · unfold ofCall?
    rw [if_neg query, if_neg query]
    cases kind with
    | select =>
        rcases operands with _ | ⟨_ | given, _ | ⟨second, rest⟩⟩
        case cons.some.nil => cases method.operation? <;> rfl
        all_goals rfl
    | insert =>
        rcases operands with _ | ⟨_ | _ | _ | _, _ | ⟨second, rest⟩⟩
        case cons.some.statement.nil =>
          by_cases takes : method = .select <;> simp [takes, map, Operand.map]
        all_goals rfl
    | transaction =>
        cases method.entryCommand? with
        | some kind => rfl
        | none =>
            rcases operands with _ | ⟨_ | _ | _ | _, _ | ⟨second, rest⟩⟩
            case cons.some.statement.nil =>
              by_cases takes : method.entryKind?.isSome = true <;> simp [takes, map, Operand.map]
            all_goals rfl
    | _ => rfl

/-- What a call puts inside a statement is one of the operands that it is given. -/
theorem exists_of_ofCall? {kind : Kind} {method : Method} {texts : List Text}
    {operands : List (Option (Operand σ))} {held : Held σ} {inner : σ}
    (puts : ofCall? kind method texts operands = some held)
    (refers : held.statement? = some inner) :
    ∃ operand, some operand ∈ operands ∧ operand.statement? = some inner := by
  unfold ofCall? at puts
  split at puts
  · split at puts
    · obtain ⟨given, rfl, rfl⟩ := Option.map_eq_some_iff.mp puts
      exact ⟨given, by simp, refers⟩
    · cases puts
  · split at puts
    · obtain ⟨way, -, rfl⟩ := Option.map_eq_some_iff.mp puts
      exact ⟨_, List.mem_cons_self, refers⟩
    · split at puts
      · cases puts
        exact ⟨_, List.mem_cons_self, refers⟩
      · cases puts
    · split at puts
      · cases puts
        cases refers
      · split at puts
        · cases puts
          exact ⟨_, List.mem_cons_self, refers⟩
        · cases puts
      · cases puts
    · cases puts

end Held

namespace Statement

variable {statement other : Statement} {method : Method} {arguments : List Argument}

/-! ## Changes beside what is put inside -/

section Put

variable (held : Held Statement) (statement)

@[simp]
theorem kind_put : (statement.put held).kind = statement.kind := by
  cases held <;> cases statement <;> rfl

@[simp]
theorem frame_put : (statement.put held).frame = statement.frame := by
  cases held <;> cases statement <;> rfl

theorem withFrame_put (frame : Frame) :
    (statement.put held).withFrame frame = (statement.withFrame frame).put held := by
  cases held <;> cases statement <;> rfl

theorem clause_put (place : Argument) :
    (statement.put held).clause place = statement.clause place := by
  cases held <;> cases statement <;> rfl

theorem shownArguments_put (method : Method) (arguments : List Argument) :
    (statement.put held).shownArguments method arguments =
      statement.shownArguments method arguments := by
  cases held <;> cases statement <;> rfl

theorem putsInside_put (method : Method) :
    (statement.put held).putsInside method = statement.putsInside method := by
  cases held <;> cases statement <;> rfl

variable {statement}

theorem edit_put (texts : List Text)
    (noCommand : statement.kind = .transaction → method.entryCommand? = none) :
    (statement.put held).edit method texts = (statement.edit method texts).put held := by
  cases statement with
  | transaction =>
      have noEntry := noCommand rfl
      cases held <;> simp only [put, addQuery, edit, noEntry]
  | _ => cases held <;> rfl

end Put

/-- What the call of a method with some arguments puts inside a statement of the kind. -/
abbrev held? (kind : Kind) (method : Method) (arguments : List Argument) :
    Option (Held Statement) :=
  Held.ofCall? kind method (fragments arguments) (arguments.map Argument.operand?)

theorem entryCommand?_of_outside (outside : held? statement.kind method arguments = none) :
    statement.kind = .transaction → method.entryCommand? = none := by
  intro script
  by_cases query : method = .withQuery
  · rw [query]
    rfl
  · cases command : method.entryCommand? with
    | none => rfl
    | some kind =>
        unfold held? Held.ofCall? at outside
        rw [if_neg query, script] at outside
        simp only [command] at outside
        cases outside

/-- What would be put inside a statement, but cannot stand inside one, is refused. -/
theorem apply_of_outside {argument : Argument} (puts : statement.putsInside method = true)
    (outside : held? statement.kind method [argument] = none) :
    statement.apply method [argument] =
      .error (.notEmbeddable statement.kind argument.typeName) := by
  cases statement with
  | select =>
      cases method with
      | union | intersect | except =>
          cases argument with
          | value | member | other => rfl
          | command | fixed | statement => cases outside
      | _ => cases puts
  | insert =>
      cases method with
      | select =>
          cases argument with
          | value | member | other | command | fixed => rfl
          | statement => cases outside
      | _ => cases puts
  | transaction =>
      cases method with
      | select | insert | update | delete | createTable | dropTable | alterTable =>
          cases argument with
          | value | member | other | command | fixed => rfl
          | statement => cases outside
      | _ => cases puts
  | _ => cases puts

/-- A call that puts nothing inside a statement does not look at what is inside. -/
theorem apply_put (held : Held Statement)
    (outside : held? statement.kind method arguments = none) :
    (statement.put held).apply method arguments =
      (statement.apply method arguments).map (·.put held) := by
  by_cases ordinary : method.IsOrdinary
  · cases writes : method.writes with
    | true =>
        rcases apply_of_writes writes arguments with ⟨failure, refuses⟩ | same
        · rw [refuses, refuses]
          rfl
        · rw [same, same]
          rfl
    | false =>
        by_cases single : statement.putsInside method = true ∧ ∃ argument, arguments = [argument]
        · obtain ⟨puts, argument, rfl⟩ := single
          rw [apply_of_outside puts outside, apply_of_outside (by rwa [putsInside_put]), kind_put]
          · rfl
          · rwa [kind_put]
        · have given : statement.putsInside method = true → ∀ argument, arguments ≠ [argument] :=
            fun puts argument same => single ⟨puts, argument, same⟩
          rw [apply_eq_edit ordinary writes given,
            apply_eq_edit ordinary writes (by rwa [putsInside_put]),
            edit_put held _ (entryCommand?_of_outside outside)]
          rfl
  · cases method with
    | raw =>
        simp only [apply, addRaw, frame_put, withFrame_put]
        rfl
    | rawBefore | rawAfter =>
        cases arguments with
        | nil => cases held <;> cases statement <;> rfl
        | cons place texts =>
            simp only [apply, clause_put]
            cases statement.clause place with
            | error failure => rfl
            | ok clause =>
                simp only [addBefore, addAfter, frame_put, withFrame_put]
                rfl
    | withQuery =>
        rcases arguments with _ | ⟨name, _ | ⟨query, _ | ⟨third, rest⟩⟩⟩
        case cons.cons.nil =>
          have refused : query.operand? = none := by
            simpa [held?, Held.ofCall?] using outside
          simp only [apply, Argument.operand, refused, kind_put]
          rfl
        all_goals cases held <;> cases statement <;> rfl
    | _ => exact absurd trivial ordinary

/-! ## Calls that put nothing inside -/

/-- A method that takes any number of texts puts nothing inside. -/
theorem ofCall?_of_takesEach {σ : Type} (each : statement.takesEach method = true)
    (texts : List Text) (operands : List (Option (Operand σ))) :
    Held.ofCall? statement.kind method texts operands = none := by
  have inside := putsInside_of_takesEach each
  have most := Option.isNone_iff_eq_none.mp each
  have query : method ≠ .withQuery := by
    rintro rfl
    rw [Kind.arity_withQuery] at most
    cases most
  unfold Held.ofCall?
  rw [if_neg query]
  cases statement with
  | select =>
      have noOperation : method.operation? = none := by simpa [putsInside] using inside
      simp only [kind, noOperation]
      split <;> first | rfl | simp_all
  | insert =>
      have other : method ≠ .select := by simpa [putsInside] using inside
      simp only [kind, if_neg other]
      split <;> first | rfl | simp_all
  | transaction =>
      have noKind : method.entryKind? = none := by simpa [putsInside] using inside
      have noCommand : method.entryCommand? = none := by
        cases method <;> first | rfl | cases most
      simp only [kind, noKind, noCommand]
      split <;> first | rfl | simp_all
  | _ => rfl

theorem outside_of_takesEach (each : statement.takesEach method = true)
    (arguments : List Argument) : held? statement.kind method arguments = none :=
  ofCall?_of_takesEach each _ _

/-- A method that writes the statement leaves it as it was. -/
theorem leftBy_of_writes (writes : method.writes = true) (arguments : List Argument) :
    statement.leftBy method arguments = statement := by
  have once : statement.takesEach method = false := by
    cases each : statement.takesEach method with
    | false => rfl
    | true =>
        rw [writes_of_takesEach each] at writes
        cases writes
  rw [leftBy]
  cases result : statement.perform method arguments with
  | ok changed =>
      have applied := apply_of_perform result
      rcases apply_of_writes writes arguments with ⟨failure, refuses⟩ | same
      · rw [refuses] at applied
        cases applied
      · rw [same] at applied
        exact (Except.ok.inj applied).symm
  | error failure =>
      simp only [during, once]
      split <;> rfl

theorem during_put (held : Held Statement) (met : List Argument) :
    (statement.put held).during method met = (statement.during method met).put held := by
  rw [during, during, takesEach, takesEach, kind_put]
  split
  · rename_i each
    rw [apply_put held (outside_of_takesEach each met)]
    cases statement.apply method met <;> rfl
  · rfl

theorem callCourse_put (held : Held Statement) (silent : method.writes = false)
    (arguments : List Argument) :
    (statement.put held).callCourse method arguments = statement.callCourse method arguments := by
  rw [callCourse, callCourse, kind_put, shownArguments_put, ownCourse_of_silent silent,
    ownCourse_of_silent silent]

/-- What a call that puts nothing inside leaves does not depend on what is inside. -/
theorem leftBy_put (held : Held Statement)
    (outside : held? statement.kind method arguments = none) :
    (statement.put held).leftBy method arguments =
      (statement.leftBy method arguments).put held := by
  cases writes : method.writes with
  | true => rw [leftBy_of_writes writes, leftBy_of_writes writes]
  | false =>
      have course : (statement.put held).callCourse method arguments =
          statement.callCourse method arguments := callCourse_put held writes arguments
      have performed : (statement.put held).perform method arguments =
          (statement.perform method arguments).map (·.put held) := by
        rw [perform, perform, kind_put, course, apply_put held outside, Course.result]
        split
        · cases (statement.callCourse method arguments).failure? <;> rfl
        · rfl
      rw [leftBy, leftBy, performed, course, during_put]
      cases statement.perform method arguments with
      | ok changed => rfl
      | error failure =>
          simp only [Except.map]
          split <;> rfl

/-- This goes for any number of things inside. -/
theorem leftBy_foldl_put (inside : List (Held Statement))
    (outside : held? statement.kind method arguments = none) :
    (inside.foldl put statement).leftBy method arguments =
      inside.foldl put (statement.leftBy method arguments) := by
  induction inside generalizing statement with
  | nil => rfl
  | cons first rest ih =>
      rw [List.foldl_cons, ih (by rwa [kind_put]), leftBy_put first outside, List.foldl_cons]

/-! ## Calls that put something inside -/

theorem kind_foldl_put (statement : Statement) (inside : List (Held Statement)) :
    (inside.foldl put statement).kind = statement.kind := by
  induction inside generalizing statement with
  | nil => rfl
  | cons first rest ih => rw [List.foldl_cons, ih, kind_put]

theorem withDialect_foldl_put (statement : Statement) (inside : List (Held Statement))
    (dialect : Dialect) :
    (inside.foldl put statement).withDialect dialect =
      inside.foldl put (statement.withDialect dialect) := by
  induction inside generalizing statement with
  | nil => rfl
  | cons first rest ih =>
      rw [List.foldl_cons, ih, List.foldl_cons, withDialect, frame_put, withFrame_put, withDialect]

/-- The ways in which the call of a method puts something inside a statement of the kind. -/
inductive Puts (kind : Kind) (method : Method) (arguments : List Argument) :
    Held Statement → Prop where
  | query {name query : Argument} {operand : Operand Statement} (adds : method = .withQuery)
      (shape : arguments = [name, query]) (inside : query.operand? = some operand) :
      Puts kind method arguments (.query name.fragment.trim operand)
  | operation {way : SetOperation} {argument : Argument} {operand : Operand Statement}
      (host : kind = .select) (adds : method.operation? = some way) (shape : arguments = [argument])
      (inside : argument.operand? = some operand) :
      Puts kind method arguments (.operation way operand)
  | source {inner : Statement} (host : kind = .insert) (takes : method = .select)
      (shape : arguments = [.statement inner]) : Puts kind method arguments (.source inner)
  | command {order : CommandKind} (host : kind = .transaction)
      (adds : method.entryCommand? = some order) :
      Puts kind method arguments
        (.entry (.command { kind := order, argument := newValue (fragments arguments) }))
  | entry {wanted : Kind} {inner : Statement} (host : kind = .transaction)
      (adds : method.entryKind? = some wanted) (shape : arguments = [.statement inner]) :
      Puts kind method arguments (.entry (.statement inner))

theorem puts_of_held? {kind : Kind} {held : Held Statement}
    (puts : held? kind method arguments = some held) : Puts kind method arguments held := by
  unfold held? Held.ofCall? at puts
  split at puts
  · rename_i query
    split at puts
    · rename_i first given inside
      cases given with
      | none => cases puts
      | some operand =>
          cases puts
          obtain ⟨name, rest, rfl, -, others⟩ := List.map_eq_cons_iff.mp inside
          obtain ⟨query, rfl, given⟩ := List.map_eq_singleton_iff.mp others
          exact .query (by assumption) rfl given
    · cases puts
  · split at puts
    · rename_i given inside
      obtain ⟨argument, rfl, operand⟩ := List.map_eq_singleton_iff.mp inside
      obtain ⟨way, adds, rfl⟩ := Option.map_eq_some_iff.mp puts
      exact .operation rfl adds rfl operand
    · rename_i given inside
      obtain ⟨argument, rfl, operand⟩ := List.map_eq_singleton_iff.mp inside
      obtain rfl := Argument.eq_statement_of_operand? operand
      split at puts
      · cases puts
        exact .source rfl (by assumption) rfl
      · cases puts
    · split at puts
      · rename_i order command
        cases puts
        exact .command rfl command
      · rename_i given noCommand inside
        obtain ⟨argument, rfl, operand⟩ := List.map_eq_singleton_iff.mp inside
        obtain rfl := Argument.eq_statement_of_operand? operand
        split at puts
        · rename_i adds
          cases puts
          obtain ⟨wanted, adds⟩ := Option.isSome_iff_exists.mp adds
          exact .entry rfl adds rfl
        · cases puts
      · cases puts
    · cases puts

/-- A call that is given something to put inside a statement either puts it there, whatever the
statement of the kind, or is refused by all of them. -/
theorem apply_of_held? {kind : Kind} {held : Held Statement}
    (puts : held? kind method arguments = some held) :
    (∀ statement : Statement, statement.kind = kind →
      statement.apply method arguments = .ok (statement.put held)) ∨
    ∃ failure, ∀ statement : Statement, statement.kind = kind →
      statement.apply method arguments = .error failure := by
  cases puts_of_held? puts with
  | query adds shape inside =>
      subst adds shape
      refine .inl fun statement _ => ?_
      simp only [apply, Argument.operand, inside]
      rfl
  | operation host adds shape inside =>
      subst shape
      refine .inl fun statement kinds => ?_
      cases statement with
      | select =>
          cases method with
          | union | intersect | except =>
              cases adds
              simp only [apply, Method.operation?, Argument.operand, inside]
              rfl
          | _ => cases adds
      | _ => cases kinds.trans host
  | @source inner host takes shape =>
      subst takes shape
      have taken (fits : inner.kind = .select) (statement : Statement)
          (kinds : statement.kind = kind) :
          statement.apply .select [.statement inner] = .ok (statement.put (.source inner)) := by
        cases statement with
        | insert =>
            simp only [apply, Argument.statementOf, if_pos fits]
            rfl
        | _ => cases kinds.trans host
      have refused (misfits : ¬inner.kind = .select) (statement : Statement)
          (kinds : statement.kind = kind) :
          statement.apply .select [.statement inner] =
            .error (.notEmbeddable .insert inner.kind.name) := by
        cases statement with
        | insert =>
            simp only [apply, Argument.statementOf, if_neg misfits]
            rfl
        | _ => cases kinds.trans host
      by_cases fits : inner.kind = .select
      · exact .inl (taken fits)
      · exact .inr ⟨_, refused fits⟩
  | command host adds =>
      refine .inl fun statement kinds => ?_
      cases statement with
      | transaction =>
          cases method with
          | savepoint | releaseSavepoint | rollback =>
              cases adds
              rcases arguments with _ | ⟨first, _ | ⟨second, rest⟩⟩ <;> rfl
          | _ => cases adds
      | _ => cases kinds.trans host
  | @entry wanted inner host adds shape =>
      subst shape
      have shown (statement : Statement) (kinds : statement.kind = kind) :
          statement.apply method [.statement inner] =
            (Argument.statement inner).statementOf wanted .transaction >>= fun entry =>
              .ok (statement.put (.entry (.statement entry))) := by
        cases statement with
        | transaction =>
            cases method with
            | select | insert | update | delete | createTable | dropTable | alterTable =>
                cases adds
                rfl
            | _ => cases adds
        | _ => cases kinds.trans host
      by_cases fits : inner.kind = wanted
      · refine .inl fun statement kinds => ?_
        rw [shown statement kinds, Argument.statementOf, if_pos fits]
        rfl
      · refine .inr ⟨.notEmbeddable .transaction inner.kind.name, fun statement kinds => ?_⟩
        rw [shown statement kinds, Argument.statementOf, if_neg fits]
        rfl

/-- A method that puts something inside a statement does not write it. -/
theorem writes_of_held? {kind : Kind} {held : Held Statement}
    (puts : held? kind method arguments = some held) : method.writes = false := by
  cases puts_of_held? puts with
  | query adds | source _ adds => rw [adds]; rfl
  | operation _ adds | command _ adds | entry _ adds => cases method <;> first | rfl | cases adds

theorem leftBy_of_held? {held : Held Statement}
    (puts : held? statement.kind method arguments = some held) :
    statement.leftBy method arguments =
      if (statement.perform method arguments).isOk then statement.put held else statement := by
  have once : statement.takesEach method = false := by
    cases each : statement.takesEach method with
    | false => rfl
    | true =>
        rw [outside_of_takesEach each] at puts
        cases puts
  rw [leftBy]
  cases result : statement.perform method arguments with
  | ok changed =>
      have applied := apply_of_perform result
      rcases apply_of_held? puts with same | ⟨failure, refuses⟩
      · rw [same statement rfl] at applied
        exact (Except.ok.inj applied).symm
      · rw [refuses statement rfl] at applied
        cases applied
  | error failure =>
      simp only [during, once]
      split <;> rfl

theorem isOk_apply_put (held : Held Statement) :
    ((statement.put held).apply method arguments).isOk =
      (statement.apply method arguments).isOk := by
  cases puts : held? statement.kind method arguments with
  | none =>
      rw [apply_put held puts]
      cases statement.apply method arguments <;> rfl
  | some other =>
      rcases apply_of_held? puts with same | ⟨failure, refuses⟩
      · rw [same _ rfl, same _ (kind_put statement held)]
        rfl
      · rw [refuses _ rfl, refuses _ (kind_put statement held)]

/-- Whether the call of a method that does not write the statement fails does not depend on what is
inside. -/
theorem isOk_perform_put (held : Held Statement) (silent : method.writes = false) :
    ((statement.put held).perform method arguments).isOk =
      (statement.perform method arguments).isOk := by
  rw [perform, perform, kind_put, callCourse_put held silent, Course.result]
  split
  · cases (statement.callCourse method arguments).failure? with
    | some failure => rfl
    | none => exact isOk_apply_put held
  · rfl

theorem isOk_perform_foldl_put (inside : List (Held Statement)) (silent : method.writes = false) :
    ((inside.foldl put statement).perform method arguments).isOk =
      (statement.perform method arguments).isOk := by
  induction inside generalizing statement with
  | nil => rfl
  | cons first rest ih => rw [List.foldl_cons, ih, isOk_perform_put first silent]

/-! ## What is kept -/

/-- A call that puts nothing inside a statement leaves no more statements inside than there were. -/
theorem mem_operands_of_apply {changed inner : Statement}
    (outside : held? statement.kind method arguments = none)
    (succeeds : statement.apply method arguments = .ok changed)
    (member : Operand.statement inner ∈ changed.operands) :
    Operand.statement inner ∈ statement.operands := by
  by_cases ordinary : method.IsOrdinary
  · cases writes : method.writes with
    | true =>
        rcases apply_of_writes writes arguments with ⟨failure, refuses⟩ | same
        · rw [refuses] at succeeds
          cases succeeds
        · rw [same] at succeeds
          cases succeeds
          exact member
    | false =>
        by_cases single : statement.putsInside method = true ∧ ∃ argument, arguments = [argument]
        · obtain ⟨puts, argument, rfl⟩ := single
          rw [apply_of_outside puts outside] at succeeds
          cases succeeds
        · rw [apply_eq_edit ordinary writes fun puts argument same =>
            single ⟨puts, argument, same⟩] at succeeds
          cases succeeds
          exact mem_operands_edit member
  · cases method with
    | raw =>
        cases succeeds
        simpa only [addRaw, operands_withFrame] using member
    | rawBefore | rawAfter =>
        cases arguments with
        | nil =>
            cases statement <;> cases succeeds <;> exact member
        | cons place texts =>
            obtain ⟨clause, -, result⟩ := bind_eq_ok.mp succeeds
            cases result
            simpa only [addBefore, addAfter, operands_withFrame] using member
    | withQuery =>
        rcases arguments with _ | ⟨name, _ | ⟨query, _ | ⟨third, rest⟩⟩⟩
        case cons.cons.nil =>
          have refused : query.operand? = none := by
            simpa [held?, Held.ofCall?] using outside
          simp only [apply, Argument.operand, refused] at succeeds
          cases succeeds
        all_goals cases statement <;> cases succeeds <;> exact member
    | _ => exact absurd trivial ordinary

theorem mem_operands_leftBy {inner : Statement}
    (outside : held? statement.kind method arguments = none)
    (member : Operand.statement inner ∈ (statement.leftBy method arguments).operands) :
    Operand.statement inner ∈ statement.operands := by
  rw [leftBy] at member
  cases result : statement.perform method arguments with
  | ok changed =>
      rw [result] at member
      exact mem_operands_of_apply outside (apply_of_perform result) member
  | error failure =>
      simp only [result] at member
      split at member
      · rw [during] at member
        split at member
        · rename_i each
          cases applied : statement.apply method (arguments.takeWhile Argument.isWritable) with
          | error failure =>
              rw [applied] at member
              exact member
          | ok changed =>
              rw [applied] at member
              exact mem_operands_of_apply (outside_of_takesEach each _) applied member
        · exact member
      · exact member

end Statement
end SqlText
