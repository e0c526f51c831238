import SqlText.Proofs.Calls
import SqlText.Session.Basic

/-!
# What a step leaves alone

A step of a session is done to one object at most (`Session.target?`), gives one name at most
(`Step.given?`), and may put a new object behind the others. Everything else is after the step what
it was before (`Session.othersKept_step`). So a name stands for the same place as long as no step
gives it again (`Session.names_after`).
-/

set_option autoImplicit false

namespace SqlText

/-- The name that a step gives to the object that comes of it. -/
def Step.given? : Step → Option Text
  | .create name .. | .makeFactory name _ => some name
  | .call _ _ _ result => result
  | _ => none

namespace Session

/-- The place of the object that a step is done to. A statement that stands in for a factory is
called. -/
def target? (session : Session) : Step → Option Nat
  | .call target .. | .setDialect target _ => (session.find? target).map Prod.fst
  | .create _ _ _ _ (some maker) =>
      if maker = ownFactory then none else (session.find? maker).map Prod.fst
  | _ => none

/-- The session after the steps of a script. -/
def after (session : Session) (quiet : Bool) (script : List Step) : Session :=
  script.foldl (fun session step => (session.step quiet step).session) session

/-! ## Names -/

theorem find?_eq_some {session : Session} {name : Text} {place : Nat} {object : Object} :
    session.find? name = some (place, object) ↔
      session.names.lookup name = some place ∧ session.objects[place]? = some object := by
  simp only [find?, Option.bind_eq_bind, Option.bind_eq_some_iff, Option.pure_def,
    Option.some.injEq, Prod.mk.injEq]
  constructor
  · rintro ⟨_, bound, _, held, rfl, rfl⟩
    exact ⟨bound, held⟩
  · rintro ⟨bound, held⟩
    exact ⟨place, bound, object, held, rfl, rfl⟩

theorem lookup_cons_of_ne {name other : Text} (different : other ≠ name) (place : Nat)
    (names : List (Text × Nat)) :
    List.lookup name ((other, place) :: names) = names.lookup name := by
  rw [List.lookup_cons, beq_false_of_ne (Ne.symm different)]

/-! ## Everything else -/

/-- Between two sessions all objects stay but perhaps the one at a place, and all names but perhaps
one stand for the same place. -/
structure OthersKept (place : Option Nat) (given : Option Text) (before after : Session) :
    Prop where
  objects : ∀ other object, place ≠ some other → before.objects[other]? = some object →
    after.objects[other]? = some object
  names : ∀ name, given ≠ some name → after.names.lookup name = before.names.lookup name

namespace OthersKept

variable {place : Option Nat} {given : Option Text} {before between after : Session}

theorem refl (place : Option Nat) (given : Option Text) (session : Session) :
    OthersKept place given session session where
  objects _ _ _ held := held
  names _ _ := rfl

theorem trans (first : OthersKept place given before between)
    (second : OthersKept place given between after) : OthersKept place given before after where
  objects other object elsewhere held :=
    second.objects other object elsewhere (first.objects other object elsewhere held)
  names name different := (second.names name different).trans (first.names name different)

theorem add (place : Option Nat) (given : Option Text) (session : Session) (object : Object) :
    OthersKept place given session (session.add given object) where
  objects other held _ found := by
    have inside : other < session.objects.length := (List.getElem?_eq_some_iff.mp found).1
    exact (List.getElem?_append_left inside).trans found
  names name different := by
    cases given with
    | none => rfl
    | some own => exact lookup_cons_of_ne (fun same => different (congrArg some same)) _ _

theorem replace (id : Nat) (given : Option Text) (session : Session) (object : Object) :
    OthersKept (some id) given session (session.replace id object) where
  objects other held elsewhere found := by
    have different : id ≠ other := fun same => elsewhere (congrArg some same)
    rw [Session.replace, List.getElem?_set_ne different, found]
  names _ _ := rfl

theorem bind (place : Option Nat) (given : Option Text) (session : Session) (id : Nat) :
    OthersKept place given session (session.bind given id) where
  objects _ _ _ found := by
    cases given <;> exact found
  names name different := by
    cases given with
    | none => rfl
    | some own => exact lookup_cons_of_ne (fun same => different (congrArg some same)) _ _

end OthersKept

/-! ## Ends of a step -/

section Ends

variable (session : Session) (quiet isSame : Bool) (result : Option Text) (events : List Event)

@[simp]
theorem session_answers (statement : Statement) (answer : Option Text → Answer) :
    (session.answers quiet statement answer events).session = session := by
  rw [answers]
  split <;> rfl

@[simp]
theorem session_returns (object : Object) :
    (session.returns quiet isSame object events).session = session := by
  cases object with
  | statement statement => exact session.session_answers quiet events statement _
  | factory | text | parts =>
      simp only [returns]
      split <;> rfl

@[simp]
theorem session_returnsNew (object : Object) :
    (session.returnsNew quiet object result events).session = session.add result object :=
  session_returns ..

@[simp]
theorem session_returnsSame (id : Nat) (object : Object) :
    (session.returnsSame quiet id object result events).session = session.bind result id :=
  session_returns ..

end Ends

/-! ## Calls -/

/-- What a call makes of the statement at a place, if its method and its arguments are found. -/
def calledState (session : Session) (id : Nat) (statement : Statement) (name : Text)
    (inputs : List Input) : Statement :=
  match statement.method name, session.mentions id inputs with
  | .ok method, .ok mentions => statement.leftBy method (statement.meet method [] mentions)
  | _, _ => statement

theorem replace_self {session : Session} {id : Nat} {object : Object}
    (here : session.objects[id]? = some object) : session.replace id object = session := by
  obtain ⟨inside, rfl⟩ := List.getElem?_eq_some_iff.mp here
  rw [replace, List.set_getElem_self]

section Found

variable {session : Session} {id : Nat} {statement : Statement} {name : Text} {method : Method}
variable {inputs : List Input} {mentions : List Mention}
variable (found : statement.method name = .ok method)
variable (given : session.mentions id inputs = .ok mentions)
include found given

theorem callOn_of_found :
    session.callOn id statement name inputs =
      let arguments := statement.meet method [] mentions
      ((method, ·) <$> statement.perform method arguments,
        session.replace id (.statement (statement.leftBy method arguments)),
        (statement.callCourse method arguments).events) := by
  rw [callOn, found, given]
  rfl

theorem calledState_of_found :
    session.calledState id statement name inputs =
      statement.leftBy method (statement.meet method [] mentions) := by
  rw [calledState, found, given]

/-- A call that succeeds leaves what it returns in the place of the called statement. -/
theorem callStatement_of_performed {changed : Statement}
    (performed : statement.perform method (statement.meet method [] mentions) = .ok changed)
    (quiet : Bool) (result : Option Text) :
    let left := session.replace id (.statement changed)
    let events := (statement.callCourse method (statement.meet method [] mentions)).events
    session.callStatement quiet id statement name inputs result =
      match method.returned? changed with
      | some object => left.returnsNew quiet object result events
      | none => left.returnsSame quiet id (.statement changed) result events := by
  have left := Statement.leftBy_of_perform performed
  simp only [callStatement, callOn_of_found found given, performed, left]
  rfl

end Found

/-- A statement that is returned in place of the called one is a copy of it. -/
theorem eq_of_returned? {method : Method} {changed copy : Statement}
    (returned : method.returned? changed = some (.statement copy)) : copy = changed := by
  cases method <;> cases returned
  rfl

/-- A call that succeeds returns the state that it leaves. -/
theorem calledState_of_callOn {session : Session} {id : Nat} {statement changed : Statement}
    {name : Text} {inputs : List Input} {method : Method}
    (returned : (session.callOn id statement name inputs).1 = .ok (method, changed)) :
    session.calledState id statement name inputs = changed := by
  cases found : statement.method name with
  | error failure =>
      rw [callOn, found] at returned
      cases returned
  | ok known =>
      cases given : session.mentions id inputs with
      | error failure =>
          rw [callOn, found, given] at returned
          cases returned
      | ok mentions =>
          simp only [callOn_of_found found given] at returned
          rw [calledState_of_found found given]
          cases performed : statement.perform known (statement.meet known [] mentions) with
          | error failure =>
              rw [performed] at returned
              cases returned
          | ok state =>
              rw [performed] at returned
              cases returned
              exact Statement.leftBy_of_perform performed

section Calls

variable {session : Session} {id : Nat} {statement : Statement}
variable (here : session.objects[id]? = some (.statement statement))
include here

/-- A call changes the statement that is called, and nothing else. -/
theorem session_callOn (name : Text) (inputs : List Input) :
    (session.callOn id statement name inputs).2.1 =
      session.replace id (.statement (session.calledState id statement name inputs)) := by
  have same := replace_self here
  cases found : statement.method name with
  | error failure =>
      rw [callOn, calledState, found]
      exact same.symm
  | ok method =>
      cases given : session.mentions id inputs with
      | error failure =>
          rw [callOn, calledState, found, given]
          exact same.symm
      | ok mentions => rw [callOn_of_found found given, calledState_of_found found given]

/-- A call fails, or returns a new object, or returns the object that is called. A new statement is
in the state in which the call leaves the called one. -/
theorem callStatement_cases (quiet : Bool) (name : Text) (inputs : List Input)
    (result : Option Text) :
    let outcome := session.callStatement quiet id statement name inputs result
    let state := session.calledState id statement name inputs
    let called := session.replace id (.statement state)
    (∃ failure events, outcome = called.fails failure events) ∨
      (∃ object events, outcome = called.returnsNew quiet object result events ∧
        ∀ copy, object = .statement copy → copy = state) ∨
        ∃ changed events,
          outcome = called.returnsSame quiet id (.statement changed) result events := by
  intro outcome state called
  have left := session_callOn here name inputs
  rcases shape : session.callOn id statement name inputs with ⟨returned, after, events⟩
  rw [shape] at left
  subst left
  simp only [outcome, callStatement, shape]
  cases returned with
  | error failure => exact .inl ⟨failure, events, rfl⟩
  | ok value =>
      obtain ⟨method, changed⟩ := value
      cases new : method.returned? changed with
      | some object =>
          simp only [new]
          refine .inr (.inl ⟨object, events, rfl, fun copy same => ?_⟩)
          subst same
          exact (eq_of_returned? new).trans (calledState_of_callOn (congrArg Prod.fst shape)).symm
      | none =>
          simp only [new]
          exact .inr (.inr ⟨changed, events, rfl⟩)

/-- Once the statement has changed, a call only adds an object or a name. -/
theorem othersKept_replaced (place : Option Nat) (quiet : Bool) (name : Text)
    (inputs : List Input) (result : Option Text) :
    OthersKept place result
      (session.replace id (.statement (session.calledState id statement name inputs)))
      (session.callStatement quiet id statement name inputs result).session := by
  rcases callStatement_cases here quiet name inputs result with
    ⟨failure, events, shape⟩ | ⟨object, events, shape, -⟩ | ⟨changed, events, shape⟩
  · rw [shape]
    exact .refl ..
  · rw [shape, session_returnsNew]
    exact .add ..
  · rw [shape, session_returnsSame]
    exact .bind ..

theorem othersKept_callStatement (quiet : Bool) (name : Text) (inputs : List Input)
    (result : Option Text) :
    OthersKept (some id) result session
      (session.callStatement quiet id statement name inputs result).session :=
  (OthersKept.replace id result session _).trans
    (othersKept_replaced here _ quiet name inputs result)

/-- After a call its object is in the state that the call has left. -/
theorem objects_callStatement (quiet : Bool) (name : Text) (inputs : List Input)
    (result : Option Text) :
    (session.callStatement quiet id statement name inputs result).session.objects[id]? =
      some (.statement (session.calledState id statement name inputs)) := by
  have inside : id < session.objects.length := (List.getElem?_eq_some_iff.mp here).1
  exact (othersKept_replaced here none quiet name inputs result).objects id _ nofun
    (List.getElem?_set_self inside)

end Calls

/-- The answer of a call tells whether what is returned is the object that is called. -/
theorem isSame_of_returns {session : Session} {quiet isSame same : Bool} {object : Object}
    {events : List Event} {text : Option Text}
    (answered : (session.returns quiet isSame object events).answer = .ok (.called text same)) :
    same = isSame := by
  cases object with
  | statement statement =>
      simp only [returns, answers] at answered
      split at answered
      · cases answered
        rfl
      · simp only [Course.result] at answered
        split at answered
        · cases answered
        · cases answered
          rfl
  | factory | text | parts =>
      simp only [returns] at answered
      split at answered
      · cases answered
        rfl
      · cases answered

section Steps

variable (session : Session) (quiet : Bool)

theorem othersKept_callObject (place : Option Nat) (id : Nat) (object : Object) (name : Text)
    (inputs : List Input) (result : Option Text) :
    OthersKept place result session
      (session.callObject quiet id object name inputs result).session := by
  rw [callObject]
  split
  · exact .refl ..
  · split
    · exact .refl ..
    · split
      · exact .refl ..
      · rw [session_returnsSame]
        exact .bind ..
      · rw [session_returnsNew]
        exact .add ..

theorem othersKept_call (target : Text) (name : Value) (inputs : List Input)
    (result : Option Text) :
    OthersKept ((session.find? target).map Prod.fst) result session
      (session.call quiet target name inputs result).session := by
  unfold call
  split
  · exact .refl ..
  · rename_i id statement name found
    rw [found]
    exact othersKept_callStatement (find?_eq_some.mp found).2 quiet name inputs result
  · exact session.othersKept_callObject quiet _ _ _ _ inputs result
  · exact .refl ..

theorem othersKept_createFrom (place : Option Nat) (name : Text)
    (request : Except Failure Request) :
    OthersKept place (some name) session (session.createFrom quiet name request).session := by
  unfold createFrom
  split
  · exact .refl ..
  · simp only
    split
    · exact .refl ..
    · rw [session_answers]
      exact .add ..

theorem othersKept_createOn {id : Nat} {statement : Statement}
    (here : session.objects[id]? = some (.statement statement)) (name method : Text)
    (inputs : List Input) (isDialectGiven : Bool) :
    OthersKept (some id) (some name) session
      (session.createOn quiet name id statement method inputs isDialectGiven).session := by
  have left := session_callOn here method inputs
  unfold createOn
  split
  · exact .refl ..
  · exact .refl ..
  · rcases shape : session.callOn id statement method inputs with ⟨returned, after, events⟩
    rw [shape] at left
    subst left
    have replaced := OthersKept.replace id (some name) session
      (.statement (session.calledState id statement method inputs))
    cases returned with
    | error failure => exact replaced
    | ok value =>
        simp only [session_answers]
        exact replaced.trans (.bind ..)

theorem othersKept_create (name : Text) (kind : Kind) (inputs : List Input)
    (dialect : Option DialectInput) (factory : Option Text) :
    OthersKept (session.target? (.create name kind inputs dialect factory)) (some name) session
      (session.create quiet name kind inputs dialect factory).session := by
  rw [create]
  split
  · exact .refl ..
  · exact .refl ..
  · cases factory with
    | none => exact session.othersKept_createFrom quiet _ name _
    | some maker =>
        simp only [target?]
        split
        · exact session.othersKept_createFrom quiet _ name _
        · split
          · exact .refl ..
          · exact session.othersKept_createFrom quiet _ name _
          · rename_i id statement found
            rw [found]
            exact session.othersKept_createOn quiet (find?_eq_some.mp found).2 name _ inputs _
          · exact .refl ..

theorem othersKept_setDialect (target : Text) (dialect : DialectInput) :
    OthersKept ((session.find? target).map Prod.fst) none session
      (session.setDialect quiet target dialect).session := by
  rw [setDialect]
  split
  · exact .refl ..
  · rename_i id object found
    rw [found]
    split
    · exact .refl ..
    · split
      · exact .refl ..
      · cases object with
        | statement statement =>
            simp only [giveDialect, session_answers]
            exact .replace ..
        | factory own => exact .replace ..
        | text | parts => exact .refl ..

/-- A registration leaves the objects and the names alone. -/
theorem register_keeps (name : Value) (features aliases : List Value) :
    (session.register name features aliases).session.objects = session.objects ∧
      (session.register name features aliases).session.names = session.names := by
  unfold register
  split
  · exact ⟨rfl, rfl⟩
  · simp only
    split <;> exact ⟨rfl, rfl⟩
  · exact ⟨rfl, rfl⟩

/-! Looking at an object, or for a dialect, changes nothing. -/

theorem session_render (target : Text) (layout : LayoutSource) (name : Text)
    (answer : Text → Answer) : (session.render target layout name answer).session = session := by
  rw [render]
  split
  · rfl
  · split <;> rfl
  · rfl

theorem session_showObject (target : Text) (shown : Object → Text) :
    (session.showObject target shown).session = session := by
  rw [showObject]
  split <;> rfl

theorem session_has (target : Text) (methods : List Value) :
    (session.has target methods).session = session := by
  rw [has]
  split <;> rfl

theorem session_findDialect (dialect : DialectInput) :
    (session.findDialect dialect).session = session := by
  rw [findDialect]
  split
  · rfl
  · split <;> rfl

/-- A step changes the object that it is done to and the name that it gives, and nothing else. -/
theorem othersKept_step (step : Step) :
    OthersKept (session.target? step) step.given? session (session.step quiet step).session := by
  cases step with
  | create name kind inputs dialect factory =>
      exact session.othersKept_create quiet name kind inputs dialect factory
  | makeFactory name dialect =>
      change OthersKept none (some name) session (session.makeFactory name dialect).session
      rw [makeFactory]
      split
      · exact .refl ..
      · split
        · exact .refl ..
        · exact .add ..
  | call target method inputs result =>
      exact session.othersKept_call quiet target method inputs result
  | setDialect target dialect => exact session.othersKept_setDialect quiet target dialect
  | register name features aliases =>
      obtain ⟨objects, names⟩ := session.register_keeps name features aliases
      exact ⟨fun other object _ held => objects ▸ held, fun _ _ => names ▸ rfl⟩
  | render target layout | toText target | print target | debug target =>
      rw [step, session_render]
      exact .refl ..
  | display target | quote target =>
      rw [step, session_showObject]
      exact .refl ..
  | has target methods =>
      rw [step, session_has]
      exact .refl ..
  | findDialect dialect =>
      rw [step, session_findDialect]
      exact .refl ..

/-! ## Scripts -/

variable {session}

/-- A name that no step of a script gives again stands for the same place. -/
theorem names_after {name : Text} {script : List Step}
    (fresh : ∀ step ∈ script, step.given? ≠ some name) :
    (session.after quiet script).names.lookup name = session.names.lookup name := by
  induction script generalizing session with
  | nil => rfl
  | cons step rest ih =>
      have first := (session.othersKept_step quiet step).names name (fresh step List.mem_cons_self)
      exact (ih fun later member => fresh later (List.mem_cons_of_mem _ member)).trans first

/-- What a rendering answers depends on the object alone that the name stands for. -/
theorem render_congr {other : Session} {name : Text} (same : other.find? name = session.find? name)
    (layout : LayoutSource) (method : Text) (answer : Text → Answer) :
    (other.render name layout method answer).answer =
        (session.render name layout method answer).answer ∧
      (other.render name layout method answer).events =
        (session.render name layout method answer).events := by
  rw [render, render, same]
  split
  · exact ⟨rfl, rfl⟩
  · split <;> exact ⟨rfl, rfl⟩
  · exact ⟨rfl, rfl⟩

end Steps

end Session
end SqlText
