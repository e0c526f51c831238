import SqlText.Proofs.Isolation.Basic
import SqlText.Proofs.Reachable
import SqlText.Store.Workspace

/-!
# What a step does to the objects

A step does two things to the objects of a session. It changes one of them in place, or none
(`Session.Changes`): a call changes the statement that is called, and a new dialect the object that
it is given to. Behind them it adds one object, or none (`Session.Adds`). A statement that is added
is a copy of the called one, or has been made with nothing inside. No step does anything else
(`Session.stepsTo_step`).
-/

set_option autoImplicit false

namespace SqlText

/-- A new statement has nothing inside. -/
theorem Request.bare_of_create {request : Request} {registry : Registry} {statement : Statement}
    (made : request.create registry = .ok statement) (inner : Statement) :
    Operand.statement inner ∉ statement.operands := by
  intro member
  obtain ⟨found, -, -, shape⟩ := Statement.eq_statement_of_create made
  have empty : Operand.statement inner ∉ (Statement.empty request.kind found.dialect).operands := by
    cases request.kind <;> exact List.not_mem_nil
  rw [shape, Request.statement] at member
  split at member
  · exact empty (Statement.mem_operands_edit member)
  · exact empty member

/-- A statement that another object makes has nothing inside. -/
theorem Object.bare_of_apply {object : Object} {registry : Registry} {skill : Skill}
    {arguments : List Argument} {statement : Statement} {events : List Event}
    (made : object.apply registry skill arguments = (.ok (some (.statement statement)), events))
    (inner : Statement) : Operand.statement inner ∉ statement.operands := by
  unfold Object.apply at made
  split at made
  · split at made
    · cases made
    · rename_i request _
      cases created : request.create registry with
      | error failure =>
          rw [created] at made
          cases made
      | ok other =>
          rw [created] at made
          cases made
          exact Request.bare_of_create created inner
  · cases made
  · cases made
  · cases made
  · rename_i whole separator
    cases parted : Object.partsOf whole separator with
    | error failure =>
        rw [parted] at made
        cases made
    | ok parts =>
        rw [parted] at made
        have same : parts = .statement statement := by
          cases made
          rfl
        subst same
        unfold Object.partsOf at parted
        split at parted
        · cases parted
        · split at parted <;> cases parted
  · cases made

namespace Session

/-- How a step changes the objects in place. -/
inductive Changes (session : Session) (step : Step) : List Object → Prop where
  /-- A statement is called. -/
  | called {id : Nat} {name : Text} {inputs : List Input} {statement : Statement}
      (calls : session.calling? step = some (id, name, inputs))
      (here : session.objects[id]? = some (.statement statement)) :
      Changes session step
        (session.objects.set id (.statement (session.calledState id statement name inputs)))
  /-- A statement is given another dialect. -/
  | rededicated {id : Nat} {dialect : Dialect} {statement : Statement}
      (calls : session.calling? step = none)
      (gives : session.rededicating? step = some (id, dialect))
      (here : session.objects[id]? = some (.statement statement)) :
      Changes session step (session.objects.set id (.statement (statement.withDialect dialect)))
  /-- A factory loses its dialect. -/
  | disabled {id : Nat} {dialect : Dialect} {own : Option Dialect}
      (calls : session.calling? step = none)
      (gives : session.rededicating? step = some (id, dialect))
      (here : session.objects[id]? = some (.factory own)) :
      Changes session step (session.objects.set id (.factory none))
  /-- No object is changed. -/
  | nothing (calls : session.calling? step = none)
      (gives : ∀ id dialect, session.rededicating? step = some (id, dialect) →
        ∀ statement, session.objects[id]? ≠ some (.statement statement)) :
      Changes session step session.objects

/-- What a step adds behind the objects, once it has changed one of them. -/
inductive Adds (session : Session) (step : Step) : Option Object → Prop where
  | nothing : Adds session step none
  /-- An object that is no statement. -/
  | plain {object : Object} (other : ∀ statement, object ≠ .statement statement) :
      Adds session step (some object)
  /-- A statement with nothing inside. -/
  | made {statement : Statement} (calls : session.calling? step = none)
      (bare : ∀ inner, Operand.statement inner ∉ statement.operands) :
      Adds session step (some (.statement statement))
  /-- A copy of the statement that is called. -/
  | copied {id : Nat} {name : Text} {inputs : List Input} {statement : Statement}
      (calls : session.calling? step = some (id, name, inputs))
      (here : session.objects[id]? = some (.statement statement)) :
      Adds session step (some (.statement (session.calledState id statement name inputs)))

/-- The objects after a step are those that it has changed in place and what it adds. -/
def StepsTo (session : Session) (step : Step) (objects : List Object) : Prop :=
  ∃ kept added, session.Changes step kept ∧ session.Adds step added ∧
    objects = kept ++ added.toList

namespace Changes

variable {session : Session} {step : Step} {kept : List Object}

theorem length_eq (changes : session.Changes step kept) : kept.length = session.objects.length := by
  cases changes with
  | nothing => rfl
  | called | rededicated | disabled => exact List.length_set

/-- A statement that is called is in the state that the call leaves. -/
theorem objects_of_calling? (changes : session.Changes step kept) {id : Nat} {name : Text}
    {inputs : List Input} {statement : Statement}
    (calls : session.calling? step = some (id, name, inputs))
    (here : session.objects[id]? = some (.statement statement)) :
    kept[id]? = some (.statement (session.calledState id statement name inputs)) := by
  cases changes with
  | called callsToo hereToo =>
      cases calls.symm.trans callsToo
      cases here.symm.trans hereToo
      exact List.getElem?_set_self (List.getElem?_eq_some_iff.mp here).1
  | rededicated callsToo | disabled callsToo | nothing callsToo =>
      cases calls.symm.trans callsToo

/-- What is a statement afterwards has been one before. -/
theorem exists_statement (changes : session.Changes step kept) {id : Nat} {after : Statement}
    (there : kept[id]? = some (.statement after)) :
    ∃ before, session.objects[id]? = some (.statement before) := by
  have elsewhere {other : Nat} {object : Object} (different : other ≠ id)
      (same : (session.objects.set other object)[id]? = some (.statement after)) :
      ∃ before, session.objects[id]? = some (.statement before) :=
    ⟨after, by rwa [List.getElem?_set_ne different] at same⟩
  cases changes with
  | nothing => exact ⟨after, there⟩
  | @called other _ _ statement _ here | @rededicated other _ statement _ _ here =>
      by_cases same : other = id
      · exact ⟨statement, same ▸ here⟩
      · exact elsewhere same there
  | @disabled other _ _ _ _ here =>
      by_cases same : other = id
      · subst same
        rw [List.getElem?_set_self (List.getElem?_eq_some_iff.mp here).1] at there
        cases there
      · exact elsewhere same there

end Changes

section Steps

variable {session : Session} {step : Step}

/-- A step that does nothing to an object only adds something. -/
theorem StepsTo.of_added {object : Object} (calls : session.calling? step = none)
    (gives : session.rededicating? step = none) (adds : session.Adds step (some object)) :
    session.StepsTo step (session.objects ++ [object]) :=
  ⟨_, _, .nothing calls (by simp [gives]), adds, rfl⟩

theorem StepsTo.of_nothing (calls : session.calling? step = none)
    (gives : session.rededicating? step = none) : session.StepsTo step session.objects :=
  ⟨_, _, .nothing calls (by simp [gives]), .nothing, (List.append_nil _).symm⟩

/-- A new name changes no object. -/
theorem objects_bind (session : Session) (name : Option Text) (id : Nat) :
    (session.bind name id).objects = session.objects := by
  cases name <;> rfl

section Calls

variable {id : Nat} {name : Text} {inputs : List Input} {statement : Statement}
variable (calls : session.calling? step = some (id, name, inputs))
variable (here : session.objects[id]? = some (.statement statement))
include calls here

/-- A step that calls a statement, and adds nothing. -/
theorem StepsTo.of_called :
    session.StepsTo step
      (session.replace id (.statement (session.calledState id statement name inputs))).objects :=
  ⟨_, _, .called calls here, .nothing, (List.append_nil _).symm⟩

theorem stepsTo_callStatement (quiet : Bool) (result : Option Text) :
    session.StepsTo step
      (session.callStatement quiet id statement name inputs result).session.objects := by
  rcases callStatement_cases here quiet name inputs result with
    ⟨failure, events, shape⟩ | ⟨object, events, shape, copies⟩ | ⟨changed, events, shape⟩
  · rw [shape]
    exact .of_called calls here
  · rw [shape, session_returnsNew]
    refine ⟨_, some object, .called calls here, ?_, rfl⟩
    cases object with
    | statement copy =>
        rw [copies copy rfl]
        exact .copied calls here
    | factory | text | parts => exact .plain fun _ same => by cases same
  · rw [shape, session_returnsSame, objects_bind]
    exact .of_called calls here

theorem stepsTo_createOn (quiet : Bool) (result : Text) :
    session.StepsTo step
      (session.createOn quiet result id statement name inputs false).session.objects := by
  have called := StepsTo.of_called calls here
  cases found : statement.method name with
  | error failure =>
      have same : session.calledState id statement name inputs = statement := by
        rw [calledState, found]
      rw [same, replace_self here] at called
      simp only [createOn, found]
      exact called
  | ok method =>
      have left := session_callOn here name inputs
      rcases shape : session.callOn id statement name inputs with ⟨returned, after, events⟩
      rw [shape] at left
      subst left
      simp only [createOn, found, shape]
      cases returned with
      | error failure => exact called
      | ok value =>
          simp only [session_answers, objects_bind]
          exact called

end Calls

section Others

variable (calls : session.calling? step = none) (gives : session.rededicating? step = none)
include calls gives

theorem stepsTo_callObject (quiet : Bool) (id : Nat) (object : Object) (name : Text)
    (inputs : List Input) (result : Option Text) :
    session.StepsTo step
      (session.callObject quiet id object name inputs result).session.objects := by
  have nothing := StepsTo.of_nothing calls gives
  rw [callObject]
  split
  · exact nothing
  · split
    · exact nothing
    · split
      · exact nothing
      · rw [session_returnsSame, objects_bind]
        exact nothing
      · rename_i other events returned
        rw [session_returnsNew]
        refine StepsTo.of_added calls gives ?_
        cases other with
        | statement made => exact .made calls (Object.bare_of_apply returned)
        | factory | text | parts => exact .plain fun _ same => by cases same

theorem stepsTo_createFrom (quiet : Bool) (name : Text) (request : Except Failure Request) :
    session.StepsTo step (session.createFrom quiet name request).session.objects := by
  have nothing := StepsTo.of_nothing calls gives
  unfold createFrom
  split
  · exact nothing
  · simp only
    split
    · exact nothing
    · rename_i made
      rw [session_answers]
      exact StepsTo.of_added calls gives (.made calls (Request.bare_of_create made))

end Others

variable (session) (quiet : Bool)

theorem stepsTo_call (target : Text) (name : Value) (inputs : List Input) (result : Option Text) :
    session.StepsTo (.call target name inputs result)
      (session.call quiet target name inputs result).session.objects := by
  have gives : session.rededicating? (.call target name inputs result) = none := rfl
  cases name with
  | text name =>
      cases found : session.find? target with
      | none =>
          simp only [call, found]
          exact .of_nothing (by simp [calling?, found]) gives
      | some named =>
          obtain ⟨id, object⟩ := named
          cases object with
          | statement statement =>
              simp only [call, found]
              exact stepsTo_callStatement (by simp [calling?, found]) (find?_eq_some.mp found).2
                quiet result
          | factory | text | parts =>
              simp only [call, found]
              exact stepsTo_callObject (by simp [calling?, found]) gives quiet id _ name inputs
                result
  | _ =>
      unfold call
      split
      case h_2 | h_3 => contradiction
      all_goals exact .of_nothing rfl gives

theorem stepsTo_createThrough {inputs : List Input} {arguments : List Argument}
    {dialect : Option DialectInput} {source : Option DialectSource}
    (resolved : session.resolveAll inputs = .ok arguments)
    (asked : dialect.mapM DialectInput.toSource = .ok source) (name maker : Text) (kind : Kind) :
    session.StepsTo (.create name kind inputs dialect (some maker))
      (session.create quiet name kind inputs dialect (some maker)).session.objects := by
  have gives : session.rededicating? (.create name kind inputs dialect (some maker)) = none := rfl
  simp only [create, resolved, asked]
  by_cases own : maker = ownFactory
  · simp only [if_pos own]
    refine stepsTo_createFrom ?_ gives quiet name _
    cases dialect with
    | some dialect => rfl
    | none =>
        simp only [calling?, resolved, if_pos own]
        split <;> rfl
  · simp only [if_neg own]
    cases found : session.find? maker with
    | none => exact .of_nothing (by cases dialect <;> simp [calling?, resolved, found]) gives
    | some named =>
        obtain ⟨id, object⟩ := named
        cases object with
        | statement statement =>
            cases dialect with
            | some dialect =>
                obtain ⟨given, -, same⟩ := bind_eq_ok.mp asked
                cases same
                simp only [createOn]
                cases statement.method kind.factoryMethod.toList <;> exact .of_nothing rfl gives
            | none =>
                cases asked
                exact stepsTo_createOn (by simp [calling?, resolved, found, own])
                  (find?_eq_some.mp found).2 quiet name
        | factory own =>
            exact stepsTo_createFrom (by cases dialect <;> simp [calling?, resolved, found]) gives
              quiet name _
        | text | parts =>
            exact .of_nothing (by cases dialect <;> simp [calling?, resolved, found]) gives

theorem stepsTo_create (name : Text) (kind : Kind) (inputs : List Input)
    (dialect : Option DialectInput) (factory : Option Text) :
    session.StepsTo (.create name kind inputs dialect factory)
      (session.create quiet name kind inputs dialect factory).session.objects := by
  have gives : session.rededicating? (.create name kind inputs dialect factory) = none := rfl
  cases resolved : session.resolveAll inputs with
  | error failure =>
      simp only [create, resolved]
      refine .of_nothing ?_ gives
      rcases dialect with _ | dialect <;> rcases factory with _ | maker <;>
        simp [calling?, resolved]
  | ok arguments =>
      cases asked : dialect.mapM DialectInput.toSource with
      | error failure =>
          simp only [create, resolved, asked]
          refine .of_nothing ?_ gives
          cases dialect with
          | none => cases asked
          | some dialect => rfl
      | ok source =>
          cases factory with
          | none =>
              simp only [create, resolved, asked]
              exact stepsTo_createFrom (by cases dialect <;> rfl) gives quiet name _
          | some maker => exact session.stepsTo_createThrough quiet resolved asked name maker kind

theorem stepsTo_setDialect (target : Text) (dialect : DialectInput) :
    session.StepsTo (.setDialect target dialect)
      (session.setDialect quiet target dialect).session.objects := by
  have calls : session.calling? (.setDialect target dialect) = none := rfl
  cases found : session.find? target with
  | none =>
      simp only [setDialect, found]
      exact .of_nothing calls (by simp [rededicating?, found])
  | some named =>
      obtain ⟨id, object⟩ := named
      have here := (find?_eq_some.mp found).2
      cases asked : dialect.toSource with
      | error failure =>
          simp only [setDialect, found, asked]
          exact .of_nothing calls (by simp [rededicating?, found, asked, Except.bind])
      | ok source =>
          cases resolved : source.resolve session.registry with
          | error failure =>
              simp only [setDialect, found, asked, resolved]
              exact .of_nothing calls (by simp [rededicating?, found, asked, Except.bind, resolved])
          | ok other =>
              have gives : session.rededicating? (.setDialect target dialect) =
                  some (id, other.dialect) := by
                simp [rededicating?, found, asked, Except.bind, resolved]
              simp only [setDialect, found, asked, resolved]
              cases object with
              | statement statement =>
                  simp only [giveDialect, session_answers]
                  exact ⟨_, _, .rededicated calls gives here, .nothing, (List.append_nil _).symm⟩
              | factory own =>
                  exact ⟨_, _, .disabled calls gives here, .nothing, (List.append_nil _).symm⟩
              | text | parts =>
                  refine ⟨_, _, .nothing calls ?_, .nothing, (List.append_nil _).symm⟩
                  intro other _ given statement same
                  rw [gives] at given
                  cases given
                  cases here.symm.trans same

/-- A step changes one object in place at most, and adds one at most. -/
theorem stepsTo_step (step : Step) :
    session.StepsTo step (session.step quiet step).session.objects := by
  cases step with
  | create name kind inputs dialect factory =>
      exact session.stepsTo_create quiet name kind inputs dialect factory
  | call target name inputs result => exact session.stepsTo_call quiet target name inputs result
  | setDialect target dialect => exact session.stepsTo_setDialect quiet target dialect
  | makeFactory name dialect =>
      change session.StepsTo _ (session.makeFactory name dialect).session.objects
      rw [makeFactory]
      split
      · exact .of_nothing rfl rfl
      · split
        · exact .of_nothing rfl rfl
        · exact StepsTo.of_added rfl rfl (.plain fun _ same => by cases same)
  | register name features aliases =>
      have same := (session.register_keeps name features aliases).1
      exact same ▸ StepsTo.of_nothing rfl rfl
  | render target layout | toText target | print target | debug target =>
      rw [step, session_render]
      exact StepsTo.of_nothing rfl rfl
  | display target | quote target =>
      rw [step, session_showObject]
      exact StepsTo.of_nothing rfl rfl
  | has target methods =>
      rw [step, session_has]
      exact StepsTo.of_nothing rfl rfl
  | findDialect dialect =>
      rw [step, session_findDialect]
      exact StepsTo.of_nothing rfl rfl

end Steps

end Session
end SqlText
