import SqlText.LayoutSource
import SqlText.Session.Object

/-!
# Sessions

A session works on named objects. A name stands for an object, and several names may stand for
the same one: a call changes the object, and every name of it sees the change, while a copy is an
object of its own. A name that is given again stands for the new object only.

Here a statement holds those inside it as values. In a `Workspace` they are objects as well, which
are referred to and have to be copied.

Every step of a session gives an answer or fails, and notes what happens on the way. A step that
fails leaves the session as it was, with four exceptions: what is done before an answer fails for
want of a text is not undone, a call that fails for want of a text has taken those before it, a
factory whose dialect is replaced can make no statements any more, and a registration keeps the
aliases before a wrong one.
-/

set_option autoImplicit false

namespace SqlText

/-- The state of a session: the registry, the objects in the order of their creation, and the
objects that the names stand for. Later names stand first. -/
structure Session where
  registry : Registry
  objects : List Object
  names : List (Text × Nat)

/-- An argument of a step. -/
inductive Input where
  /-- An argument of a call. -/
  | argument (argument : Argument)
  /-- An object by its name. -/
  | reference (name : Text)
  /-- The member of an enumeration by its path. -/
  | member (path : Text)
  /-- A command by its keyword, with its argument. -/
  | command (keyword argument : Value)

/-- A dialect as a step asks for it: a source, or a new dialect by its name and the names of its
features. -/
inductive DialectInput where
  | source (source : DialectSource)
  | custom (name : Value) (features : List Value)

/-- What a session can be asked to do. -/
inductive Step where
  /-- Make a statement, of a dialect if one is named, and through a factory if one is named. A
  statement can stand in for the factory, and is then called itself. -/
  | create (name : Text) (kind : Kind) (inputs : List Input) (dialect : Option DialectInput)
      (factory : Option Text)
  /-- Make a factory. -/
  | makeFactory (name : Text) (dialect : DialectInput)
  /-- Call a method, and give its result a name if one is wanted. -/
  | call (target : Text) (method : Value) (inputs : List Input) (result : Option Text)
  /-- Render a statement. -/
  | render (target : Text) (layout : LayoutSource)
  /-- Write a statement on one line. -/
  | toText (target : Text)
  /-- Show the text of an object. -/
  | display (target : Text)
  /-- Show an object as a message does. -/
  | quote (target : Text)
  /-- Tell which methods an object has. -/
  | has (target : Text) (methods : List Value)
  /-- Replace the dialect of a statement. -/
  | setDialect (target : Text) (dialect : DialectInput)
  /-- Register a dialect. -/
  | register (name : Value) (features : List Value) (aliases : List Value)
  /-- Find a dialect. -/
  | findDialect (dialect : DialectInput)
  /-- Print a statement on one line. -/
  | print (target : Text)
  /-- Print a statement in the pretty layout between two rules. -/
  | debug (target : Text)

/-- What a step answers. The text of a statement is left out where it is not asked for. -/
inductive Answer where
  | created (text : Option Text) (dialect : Value)
  | called (text : Option Text) (same : Bool)
  | text (text : Text)
  | factory (dialect : Value)
  | changed (text : Option Text)
  | flags (flags : List Bool)
  | dialect (dialect : Dialect)
  | printed (text : Text)

/-- The end of a step: the session after it, its answer, and what was noted. -/
structure Outcome where
  session : Session
  answer : Except Failure Answer
  events : List Event

/-- The features of the given names. -/
def featuresOf : List Value → Except Failure (List Feature)
  | [] => .ok []
  | name :: rest =>
      match Feature.ofName? name.shown with
      | none => .error (.unknownFeature name.quoted)
      | some feature => do pure (feature :: (← featuresOf rest))

/-- The dialect of the given name and features. -/
def Dialect.ofNames (name : Value) (features : List Value) : Except Failure Dialect := do
  pure ⟨name, ← featuresOf features⟩

/-- The member that a path leads to. -/
def Member.ofPath (path : Text) : Except Failure Member :=
  match Member.ofPath? path with
  | some entry => .ok entry
  | none => .error (.unknownKey (Member.missing path).quoted)

/-- The command with the given keyword. -/
def CommandKind.ofKeyword (keyword : Value) : Except Failure CommandKind :=
  match keyword.text?.bind CommandKind.ofKeyword? with
  | some kind => .ok kind
  | none => .error (.unknownCommand keyword.quoted)

/-- The source that a step asks for a dialect with. -/
def DialectInput.toSource : DialectInput → Except Failure DialectSource
  | .source asked => .ok asked
  | .custom name features => do pure (.dialect (← Dialect.ofNames name features))

namespace Session

/-- A session without objects. -/
def start : Session := ⟨.builtIn, [], []⟩

/-! ## Names -/

/-- The object that a name stands for, with its place. -/
def find? (session : Session) (name : Text) : Option (Nat × Object) := do
  let id ← session.names.lookup name
  let object ← session.objects[id]?
  pure (id, object)

/-- The object that a name has to stand for, with its place. -/
def find (session : Session) (name : Text) : Except Failure (Nat × Object) :=
  match session.find? name with
  | some found => .ok found
  | none => .error (.unknownName name)

/-- The argument that an input stands for. -/
def resolve (session : Session) : Input → Except Failure Argument
  | .argument argument => .ok argument
  | .reference name => do pure (← session.find name).2.argument
  | .member path => do pure (.member (← Member.ofPath path))
  | .command keyword given => do pure (.command (← CommandKind.ofKeyword keyword) given)

/-- The arguments that inputs stand for. -/
def resolveAll (session : Session) : List Input → Except Failure (List Argument)
  | [] => .ok []
  | input :: rest => do pure ((← session.resolve input) :: (← session.resolveAll rest))

/-- What an input stands for in a call on the object at a place. -/
def mention (session : Session) (called : Nat) : Input → Except Failure Mention
  | .reference name => do
      let (id, object) ← session.find name
      pure (if id = called then .itself else .argument object.argument)
  | input => do pure (.argument (← session.resolve input))

/-- What inputs stand for in a call on the object at a place. -/
def mentions (session : Session) (called : Nat) : List Input → Except Failure (List Mention)
  | [] => .ok []
  | input :: rest => do
      pure ((← session.mention called input) :: (← session.mentions called rest))

/-- The session with a new object and its name. -/
def add (session : Session) (name : Option Text) (object : Object) : Session :=
  { session with
    objects := session.objects ++ [object]
    names :=
      match name with
      | some name => (name, session.objects.length) :: session.names
      | none => session.names }

/-- The session with an object replaced. -/
def replace (session : Session) (id : Nat) (object : Object) : Session :=
  { session with objects := session.objects.set id object }

/-- The session with one more name for an object. -/
def bind (session : Session) (name : Option Text) (id : Nat) : Session :=
  match name with
  | some name => { session with names := (name, id) :: session.names }
  | none => session

/-! ## Ends of a step -/

/-- A step that fails. -/
def fails (session : Session) (failure : Failure) (events : List Event := []) : Outcome :=
  ⟨session, .error failure, events⟩

/-- The end of a step that answers with the text of a statement where texts are asked for. What the
step has done is kept even if the text cannot be given. -/
def answers (session : Session) (quiet : Bool) (statement : Statement)
    (answer : Option Text → Answer) (events : List Event) : Outcome :=
  if quiet then ⟨session, .ok (answer none), events⟩
  else
    let course := statement.course .compact
    ⟨session, course.result (answer (some statement.text)), events ++ course.events⟩

/-- The end of a call that has returned an object. Only statements have a text to answer with. -/
def returns (session : Session) (quiet isSame : Bool) (object : Object) (events : List Event) :
    Outcome :=
  match object with
  | .statement statement => session.answers quiet statement (.called · isSame) events
  | object =>
      if quiet then ⟨session, .ok (.called none isSame), events⟩
      else session.fails (.noAttribute object.typeName "to_text".toList) events

/-- The end of a call that has returned a new object. -/
def returnsNew (session : Session) (quiet : Bool) (object : Object) (result : Option Text)
    (events : List Event) : Outcome :=
  (session.add result object).returns quiet false object events

/-- The end of a call that has returned the object at a place. -/
def returnsSame (session : Session) (quiet : Bool) (id : Nat) (object : Object)
    (result : Option Text) (events : List Event) : Outcome :=
  (session.bind result id).returns quiet true object events

/-! ## Calls -/

/-- What comes of a call on the statement at a place: the method and the statement that it returns,
the session as the call has left it, and what is noted on the way. -/
def callOn (session : Session) (id : Nat) (statement : Statement) (name : Text)
    (inputs : List Input) : Except Failure (Method × Statement) × Session × List Event :=
  let found : Except Failure (Method × List Mention) := do
    let method ← statement.method name
    pure (method, ← session.mentions id inputs)
  match found with
  | .error failure => (.error failure, session, [])
  | .ok (method, mentions) =>
      let arguments := statement.meet method [] mentions
      ((method, ·) <$> statement.perform method arguments,
       session.replace id (.statement (statement.leftBy method arguments)),
       (statement.callCourse method arguments).events)

/-- Call a method of a statement. -/
def callStatement (session : Session) (quiet : Bool) (id : Nat) (statement : Statement)
    (name : Text) (inputs : List Input) (result : Option Text) : Outcome :=
  match session.callOn id statement name inputs with
  | (.error failure, session, events) => session.fails failure events
  | (.ok (method, changed), session, events) =>
      match method.returned? changed with
      | some object => session.returnsNew quiet object result events
      | none => session.returnsSame quiet id (.statement changed) result events

/-- Ask an object that is no statement to do something. -/
def callObject (session : Session) (quiet : Bool) (id : Nat) (object : Object)
    (name : Text) (inputs : List Input) (result : Option Text) : Outcome :=
  match object.skill? name with
  | none => session.fails (.noAttribute object.typeName name)
  | some skill =>
      match session.resolveAll inputs with
      | .error failure => session.fails failure
      | .ok arguments =>
          match object.apply session.registry skill arguments with
          | (.error failure, events) => session.fails failure events
          | (.ok none, events) => session.returnsSame quiet id object result events
          | (.ok (some other), events) => session.returnsNew quiet other result events

/-- Call a method, which has to be named by a text. -/
def call (session : Session) (quiet : Bool) (target : Text) (name : Value) (inputs : List Input)
    (result : Option Text) : Outcome :=
  match session.find? target, name with
  | none, _ => session.fails (.unknownName target)
  | some (id, .statement statement), .text name =>
      session.callStatement quiet id statement name inputs result
  | some (id, object), .text name => session.callObject quiet id object name inputs result
  | some _, _ => session.fails .badArguments

/-! ## New objects -/

/-- The name of the factory that every session has. It makes statements of the generic dialect,
whatever other factory goes by its name. -/
def ownFactory : Text := "sql".toList

/-- Make the statement that is asked for. -/
def createFrom (session : Session) (quiet : Bool) (name : Text)
    (request : Except Failure Request) : Outcome :=
  match request with
  | .error failure => session.fails failure
  | .ok request =>
      let events := request.events session.registry
      match request.create session.registry with
      | .error failure => session.fails failure events
      | .ok statement =>
          (session.add (some name) (.statement statement)).answers quiet statement
            (.created · statement.dialect.name) events

/-- Call a statement in place of a factory, and give it one more name. It takes no dialect. -/
def createOn (session : Session) (quiet : Bool) (name : Text) (id : Nat) (statement : Statement)
    (method : Text) (inputs : List Input) (isDialectGiven : Bool) : Outcome :=
  match statement.method method, isDialectGiven with
  | .error failure, _ => session.fails failure
  | .ok _, true => session.fails .badArguments
  | .ok _, false =>
      match session.callOn id statement method inputs with
      | (.error failure, session, events) => session.fails failure events
      | (.ok (_, changed), session, events) =>
          (session.bind (some name) id).answers quiet changed (.created · changed.dialect.name)
            events

/-- Make a statement, through the named factory if there is one. -/
def create (session : Session) (quiet : Bool) (name : Text) (kind : Kind) (inputs : List Input)
    (dialect : Option DialectInput) (factory : Option Text) : Outcome :=
  match session.resolveAll inputs, dialect.mapM DialectInput.toSource with
  | .error failure, _ => session.fails failure
  | .ok _, .error failure => session.fails failure
  | .ok arguments, .ok source =>
      match factory with
      | none => session.createFrom quiet name (Request.ofArguments kind arguments source)
      | some maker =>
          let through (own : Option Dialect) : Outcome :=
            session.createFrom quiet name (Request.ofFactory own kind arguments source)
          if maker = ownFactory then through (some .generic)
          else
            match session.find? maker with
            | none => session.fails (.unknownName maker)
            | some (_, .factory own) => through own
            | some (id, .statement statement) =>
                session.createOn quiet name id statement kind.factoryMethod.toList inputs
                  source.isSome
            | some (_, object) =>
                session.fails (.noAttribute object.typeName kind.factoryMethod.toList)

/-- Make a factory. -/
def makeFactory (session : Session) (name : Text) (dialect : DialectInput) : Outcome :=
  match dialect.toSource with
  | .error failure => session.fails failure
  | .ok source =>
      match source.resolve session.registry with
      | .error failure => session.fails failure
      | .ok found =>
          ⟨session.add (some name) (.factory (some found.dialect)),
           .ok (.factory found.dialect.name),
           found.events ++ [.factory found.dialect.name]⟩

/-! ## Looking at objects -/

/-- Render a statement. Other objects have nothing of the given name that would do so, which is
noticed before the layout is looked at. -/
def render (session : Session) (target : Text) (layout : LayoutSource) (name : Text)
    (answer : Text → Answer) : Outcome :=
  match session.find? target with
  | none => session.fails (.unknownName target)
  | some (_, .statement statement) =>
      match layout.resolve with
      | .error failure => session.fails failure
      | .ok given =>
          let course := statement.course given
          ⟨session, course.result (answer (statement.render given.shown)), course.events⟩
  | some (_, object) => session.fails (.noAttribute object.typeName name)

/-- Show an object in the given way. -/
def showObject (session : Session) (target : Text) (shown : Object → Text) : Outcome :=
  match session.find? target with
  | none => session.fails (.unknownName target)
  | some (_, object) =>
      ⟨session, object.course.result (.text (shown object)), object.course.events⟩

/-- Tell which methods an object has. They have to be named by texts. -/
def has (session : Session) (target : Text) (methods : List Value) : Outcome :=
  match session.find? target, Value.texts? methods with
  | none, _ => session.fails (.unknownName target)
  | some _, none => session.fails .badArguments
  | some (_, object), some names => ⟨session, .ok (.flags (names.map object.has)), []⟩

/-! ## Dialects -/

/-- What becomes of an object whose dialect is replaced, and how it is answered. -/
def giveDialect (session : Session) (quiet : Bool) (id : Nat) (dialect : Dialect) :
    Object → Outcome
  | .statement statement =>
      let changed := statement.withDialect dialect
      (session.replace id (.statement changed)).answers quiet changed .changed []
  | .factory own =>
      ⟨session.replace id (.factory none),
       if quiet then .ok (.changed none)
         else .error (.noAttribute (Object.factory own).typeName "to_text".toList), []⟩
  | object => session.fails (.noAttribute object.typeName "_dialect".toList)

/-- Replace the dialect of a statement. The dialect is looked for first, even if there is no
statement that it could be given to. -/
def setDialect (session : Session) (quiet : Bool) (target : Text) (dialect : DialectInput) :
    Outcome :=
  match session.find? target with
  | none => session.fails (.unknownName target)
  | some (id, object) =>
      match dialect.toSource with
      | .error failure => session.fails failure
      | .ok source =>
          match source.resolve session.registry with
          | .error failure => session.fails failure
          | .ok found =>
              let outcome := session.giveDialect quiet id found.dialect object
              { outcome with events := found.events ++ outcome.events }

/-- The session with a dialect registered, under those aliases that stand before the first one
that is no text. -/
def registered (session : Session) (name : Text) (features : List Feature)
    (aliases : List Value) : Session :=
  let texts := (aliases.takeWhile Value.isText).map Value.shown
  { session with registry := session.registry.register name features texts }

/-- Register a dialect. -/
def register (session : Session) (name : Value) (features aliases : List Value) : Outcome :=
  match featuresOf features, name with
  | .error failure, _ => session.fails failure
  | .ok features, .text name =>
      let changed := session.registered name features aliases
      match aliases.find? fun other => !other.isText with
      | none => ⟨changed, .ok (.dialect ⟨.text name, features⟩), []⟩
      | some other => changed.fails (.noAttribute other.typeName "lower".toList)
  | .ok _, name => session.fails (.noAttribute name.typeName "lower".toList)

/-- Find a dialect. -/
def findDialect (session : Session) (dialect : DialectInput) : Outcome :=
  match dialect.toSource with
  | .error failure => session.fails failure
  | .ok source =>
      match source.resolve session.registry with
      | .error failure => session.fails failure
      | .ok found => ⟨session, .ok (.dialect found.dialect), found.events⟩

/-- One step of a session. -/
def step (session : Session) (quiet : Bool) : Step → Outcome
  | .create name kind inputs dialect factory =>
      session.create quiet name kind inputs dialect factory
  | .makeFactory name dialect => session.makeFactory name dialect
  | .call target method inputs result => session.call quiet target method inputs result
  | .render target layout => session.render target layout "render".toList .text
  | .toText target => session.render target (.known .compact) "to_text".toList .text
  | .display target => session.showObject target Object.display
  | .quote target => session.showObject target Object.quoted
  | .has target methods => session.has target methods
  | .setDialect target dialect => session.setDialect quiet target dialect
  | .register name features aliases => session.register name features aliases
  | .findDialect dialect => session.findDialect dialect
  | .print target =>
      session.render target (.known .compact) "print".toList fun text =>
        .printed (Console.line text)
  | .debug target =>
      session.render target (.known .pretty) "debug".toList fun text =>
        .printed (Console.framed text)

/-- The answers to steps that are taken one after another, and everything that is noted. -/
def run (session : Session) (quiet : Bool) :
    List Step → List (Except Failure Answer) × List Event
  | [] => ([], [])
  | first :: rest =>
      let outcome := session.step quiet first
      let (answers, events) := outcome.session.run quiet rest
      (outcome.answer :: answers, outcome.events ++ events)

end Session
end SqlText
