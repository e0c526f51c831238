import SqlText.Session.Basic
import SqlText.Store.Basic

/-!
# Sessions on a store

A workspace is a session whose statements are kept in a store. Its names stand for objects, and an
object is a builder, told by its place in the store, or anything else. What a step reads is read
through the references: it answers as the session of the present values does (`Workspace.view`).
What it changes, it changes in the store, where the called builder has its place, and what it makes
is put behind everything that there is (`Workspace.step`).
-/

set_option autoImplicit false

namespace SqlText

/-! ## What a step does to which statement -/

namespace Session

/-- The call that a step makes on a statement: which object is called, the name of the method, and
the inputs. A statement that stands in for a factory is called, if no dialect is asked for. -/
def calling? (session : Session) : Step → Option (Nat × Text × List Input)
  | .call target (.text method) inputs _ =>
      match session.find? target with
      | some (id, .statement _) => some (id, method, inputs)
      | _ => none
  | .create _ kind inputs none (some maker) =>
      match session.resolveAll inputs, session.find? maker with
      | .ok _, some (id, .statement _) =>
          if maker = ownFactory then none else some (id, kind.factoryMethod.toList, inputs)
      | _, _ => none
  | _ => none

/-- The dialect that a step gives to an object. -/
def rededicating? (session : Session) : Step → Option (Nat × Dialect)
  | .setDialect target dialect =>
      match session.find? target, dialect.toSource.bind fun source =>
          source.resolve session.registry with
      | some (id, _), .ok found => some (id, found.dialect)
      | _, _ => none
  | _ => none

end Session

/-- An argument as something inside a statement, where a builder is told by its place. -/
def Argument.operandAt (argument : Argument) (place : Option Nat) : Option (Operand Nat) :=
  match argument.operand? with
  | some (.statement _) => place.map .statement
  | some (.command order) => some (.command order)
  | some (.fixed content) => some (.fixed content)
  | none => none

/-! ## Workspaces -/

/-- What a name of a workspace stands for. -/
inductive Handle where
  /-- A builder, by its place in the store. -/
  | builder (place : Nat)
  /-- An object that is no statement. -/
  | plain (object : Object)

namespace Handle

/-- The place of the builder, if it is one. -/
def place? : Handle → Option Nat
  | builder place => some place
  | plain _ => none

/-- The object as it is at present. -/
def object (store : Store) : Handle → Object
  | builder place => .statement (store.value place)
  | plain object => object

/-- The same builder, or what has become of another object. -/
def become : Handle → Object → Handle
  | builder place, _ => .builder place
  | plain _, object => .plain object

end Handle

/-- The state of a session whose statements are kept in a store. -/
structure Workspace where
  registry : Registry
  store : Store
  objects : List Handle
  names : List (Text × Nat)

namespace Workspace

/-- A workspace without objects. -/
def start : Workspace := ⟨.builtIn, .start, [], []⟩

/-- The session of the present values. -/
def view (workspace : Workspace) : Session :=
  ⟨workspace.registry, workspace.objects.map (Handle.object workspace.store), workspace.names⟩

/-- The place of an object, if it is a builder. -/
def place? (workspace : Workspace) (id : Nat) : Option Nat :=
  workspace.objects[id]?.bind Handle.place?

/-- The place of the builder that an input refers to. -/
def inputPlace? (workspace : Workspace) : Input → Option Nat
  | .reference name => (workspace.names.lookup name).bind workspace.place?
  | _ => none

/-! ## Steps -/

/-- The store after a call on an object, if the method and the arguments are found. -/
def callOn (workspace : Workspace) (id place : Nat) (name : Text) (inputs : List Input) : Store :=
  let statement := workspace.store.value place
  match statement.method name, workspace.view.mentions id inputs with
  | .ok method, .ok mentions =>
      let arguments := statement.meet method [] mentions
      workspace.store.call place method arguments
        (List.zipWith Argument.operandAt arguments (inputs.map workspace.inputPlace?))
  | _, _ => workspace.store

/-- The store as a step changes what is in it. -/
def changed (workspace : Workspace) (step : Step) : Store :=
  match workspace.view.calling? step, workspace.view.rededicating? step with
  | some (id, name, inputs), _ =>
      match workspace.place? id with
      | some place => workspace.callOn id place name inputs
      | none => workspace.store
  | none, some (id, dialect) =>
      match workspace.place? id with
      | some place => workspace.store.rededicate place dialect
      | none => workspace.store
  | none, none => workspace.store

/-- The store with a new object that a step adds, and what a name of it stands for. A statement that
a call returns is a copy of the builder that is called. -/
def added (workspace : Workspace) (step : Step) (object : Object) : Store × Handle :=
  let store := workspace.changed step
  let called := (workspace.view.calling? step).bind fun call => workspace.place? call.1
  match object, called with
  | .statement _, some place => (store.copied place, .builder (store.copyPlace place place))
  | .statement statement, none => (store.made statement, .builder store.length)
  | object, _ => (store, .plain object)

/-- One step. It answers, and gives names, as on the present values. -/
def step (workspace : Workspace) (quiet : Bool) (step : Step) : Workspace :=
  let after := (workspace.view.step quiet step).session
  let kept := List.zipWith Handle.become workspace.objects after.objects
  match after.objects[workspace.objects.length]? with
  | none => ⟨after.registry, workspace.changed step, kept, after.names⟩
  | some object =>
      let (store, handle) := workspace.added step object
      ⟨after.registry, store, kept ++ [handle], after.names⟩

/-- The workspace after the steps of a script. -/
def after (workspace : Workspace) (quiet : Bool) (script : List Step) : Workspace :=
  script.foldl (fun workspace step => workspace.step quiet step) workspace

/-- The answers to steps that are taken one after another, and everything that is noted. -/
def run (workspace : Workspace) (quiet : Bool) :
    List Step → List (Except Failure Answer) × List Event
  | [] => ([], [])
  | first :: rest =>
      let outcome := workspace.view.step quiet first
      let (answers, events) := (workspace.step quiet first).run quiet rest
      (outcome.answer :: answers, outcome.events ++ events)

end Workspace

/-- The inputs of a step refer to builders by their names, and bring none along. -/
def Input.isNamed : Input → Bool
  | .argument (.statement _) => false
  | _ => true

/-- The step brings no builder along. -/
def Step.isNamed : Step → Bool
  | .create _ _ inputs _ _ | .call _ _ inputs _ => inputs.all Input.isNamed
  | _ => true

end SqlText
