import SqlText.Proofs.Isolation.Calls
import SqlText.Proofs.Isolation.Simulation

/-!
# Isolation

A statement is an object that is changed in place, has any number of names, and refers to the
statements inside it. After every script no two objects have anything in common that could be
changed, because what is put inside a statement is put there as a copy. So a step is seen under the
names of the object that it is done to, and nowhere else: neither in what this object was copied
from or to, nor in what it stands inside of, nor in what stands inside of it
(`Workspace.isIsolated_after`).
-/

set_option autoImplicit false

namespace SqlText.Workspace

open Text

variable {workspace : Workspace}

/-- No step of a script is done to the builder at a place. -/
def Spares (workspace : Workspace) (quiet : Bool) (place : Nat) : List Step → Prop
  | [] => True
  | step :: rest =>
      workspace.touched? step ≠ some place ∧ (workspace.step quiet step).Spares quiet place rest

namespace IsApart

variable (apart : workspace.IsApart)
include apart

/-- Nobody refers to a builder that a step is done to. -/
theorem isRoot_of_touched? {step : Step} {place : Nat}
    (touched : workspace.touched? step = some place) : workspace.store.IsRoot place := by
  obtain ⟨id, -, placed⟩ := Option.bind_eq_some_iff.mp touched
  exact (apart.placed id place placed).2

section Scripts

variable {quiet : Bool} {script : List Step} (named : ∀ step ∈ script, step.isNamed = true)
include named

/-- A builder that no step of a script is done to stays as it is, with everything inside it. -/
theorem spared_after {place : Nat} (inside : place < workspace.store.length)
    (spared : workspace.Spares quiet place script) :
    (workspace.after quiet script).store.builder place = workspace.store.builder place ∧
      (workspace.after quiet script).store.value place = workspace.store.value place := by
  induction script generalizing workspace with
  | nil => exact ⟨rfl, rfl⟩
  | cons first rest ih =>
      rw [List.forall_mem_cons] at named
      obtain ⟨elsewhere, later⟩ := spared
      have follows := (apart.follows_step named.1 quiet).1
      have same := ih follows.apart named.2 (inside.trans_le follows.touches.longer) later
      refine ⟨same.1.trans (follows.touches.others place inside elsewhere), same.2.trans ?_⟩
      exact follows.touches.value_eq apart.forest (fun _ => apart.isRoot_of_touched?) inside
        elsewhere

/-- An object stands for the same builder after every script. -/
theorem place?_after {id place : Nat} (placed : workspace.place? id = some place) :
    (workspace.after quiet script).place? id = some place := by
  induction script generalizing workspace with
  | nil => exact placed
  | cons first rest ih =>
      rw [List.forall_mem_cons] at named
      have follows := (apart.follows_step named.1 quiet).1
      exact ih follows.apart named.2 (follows.keeps id place placed)

/-- A name stands for the same object in the same state after a script that neither does anything to
its builder nor gives the name again. -/
theorem find?_after {id place : Nat} {name : Text} (placed : workspace.place? id = some place)
    (bound : workspace.names.lookup name = some id)
    (spared : workspace.Spares quiet place script)
    (fresh : ∀ step ∈ script, step.given? ≠ some name) :
    (workspace.after quiet script).view.find? name = workspace.view.find? name := by
  have inside := (apart.placed id place placed).1
  have value := (apart.spared_after named inside spared).2
  have view := (apart.after quiet named).2
  have later : (workspace.after quiet script).view.names.lookup name = some id := by
    rw [view, Session.names_after quiet fresh]
    exact bound
  rw [Session.find?_eq_some.mpr ⟨bound, objects_of_place? placed⟩,
    Session.find?_eq_some.mpr ⟨later, objects_of_place? (apart.place?_after named placed)⟩, value]

end Scripts

end IsApart

/-- A call on a builder follows the call on its value. -/
theorem IsApart.follows_call (apart : workspace.IsApart) (quiet : Bool) {target : Text}
    {id place : Nat} (bound : workspace.names.lookup target = some id)
    (placed : workspace.place? id = some place) (method : Text) {inputs : List Input}
    (named : inputs.all Input.isNamed = true) (result : Option Text) :
    let step := Step.call target (.text method) inputs result
    workspace.Follows (workspace.step quiet step) (workspace.touched? step) ∧
      (workspace.step quiet step).view = (workspace.view.callStatement quiet id
        (workspace.store.value place) method inputs result).session := by
  intro step
  have stepNamed : step.isNamed = true := named
  have found := Session.find?_eq_some.mpr ⟨bound, objects_of_place? placed⟩
  obtain ⟨follows, view⟩ := apart.follows_step stepNamed quiet
  exact ⟨follows, view.trans (congrArg Outcome.session (Session.step_call found inputs result))⟩

/-- What the steps of a script can do to the builders of a workspace. -/
structure IsIsolated (workspace : Workspace) (quiet : Bool) : Prop where
  /-- From two objects nothing can be reached in common, be it an object or a cell. -/
  apart : ∀ first second place other, workspace.place? first = some place →
    workspace.place? second = some other → first ≠ second →
      ∀ inner ∈ workspace.store.reached place, ∀ further ∈ workspace.store.reached other,
        inner ≠ further ∧ workspace.store.cell inner ≠ workspace.store.cell further
  /-- A builder that no step of a script is done to, be it an object or inside of one, stays as it
  is, and so does its value. An object is rendered alike in every layout under every name that it
  keeps. -/
  spared : ∀ script, (∀ step ∈ script, step.isNamed = true) →
    ∀ place < workspace.store.length, workspace.Spares quiet place script →
      let later := workspace.after quiet script
      later.store.builder place = workspace.store.builder place ∧
        later.store.value place = workspace.store.value place ∧
          ∀ id name, workspace.place? id = some place → workspace.names.lookup name = some id →
            (∀ step ∈ script, step.given? ≠ some name) → ∀ layout,
              let before := workspace.view.step quiet (.render name layout)
              let after := later.view.step quiet (.render name layout)
              after.answer = before.answer ∧ after.events = before.events
  /-- After a call the called builder has the state that the call leaves, and every name of its
  object stands for it in this state: those that it had, and the one that is given to it if the call
  returns it. -/
  called : ∀ target id place method inputs result, workspace.names.lookup target = some id →
    workspace.place? id = some place → inputs.all Input.isNamed = true →
      let step := Step.call target (.text method) inputs result
      let later := workspace.step quiet step
      let changed := workspace.view.calledState id (workspace.store.value place) method inputs
      later.place? id = some place ∧ later.store.value place = changed ∧
        (∀ name, result ≠ some name →
          later.names.lookup name = workspace.names.lookup name) ∧
        (∀ name text, result = some name →
          (workspace.view.step quiet step).answer = .ok (.called text true) →
            later.names.lookup name = some id) ∧
        ∀ name, later.names.lookup name = some id →
          later.view.find? name = some (id, .statement changed)
  /-- A copy is a new object with the value of the one that it is copied from. Everything that can
  be reached from it is new. -/
  copied : ∀ target id place method name, workspace.names.lookup target = some id →
    workspace.place? id = some place → Method.ofName? method = some .copy →
      let later := workspace.step quiet (.call target (.text method) [] (some name))
      ∃ copy copyPlace, later.names.lookup name = some copy ∧
        later.place? copy = some copyPlace ∧
        later.store.value copyPlace = workspace.store.value place ∧
        ∀ inner ∈ later.store.reached copyPlace, workspace.store.length ≤ inner
  /-- What is put inside a builder is new: nobody refers to what was there before, unless it did so
  before. -/
  embedded : ∀ step : Step, step.isNamed = true → ∀ holder,
    ∀ inner ∈ (workspace.step quiet step).store.places holder,
      inner ∈ workspace.store.places holder ∨ workspace.store.length ≤ inner
  /-- A registration changes no builder, no object and no name. -/
  registered : ∀ name features aliases,
    let later := workspace.step quiet (.register name features aliases)
    later.store = workspace.store ∧ later.objects = workspace.objects ∧
      later.names = workspace.names
  /-- A query that is united with itself stands on the right side as it was before. -/
  united : ∀ target id place frame body queries, workspace.names.lookup target = some id →
    workspace.place? id = some place →
      workspace.store.value place = .select frame body queries [] →
        frame.dialect.supports .setOperations = true →
          (∀ operation : SetOperation, frame.before.get operation.clause = [] ∧
            frame.after.get operation.clause = []) →
            ∀ layout given text, layout.resolve = .ok given →
              AllBlank given.shown.space → AllBlank given.shown.lineBreak →
                (workspace.view.step quiet (.render target layout)).answer = .ok (.text text) →
                  text.trim ≠ [] → ∀ result,
                    let later := workspace.step quiet
                      (.call target (.text "union".toList) [.reference target] result)
                    (later.view.step quiet (.render target layout)).answer =
                      .ok (.text ('(' :: text.trim ++ ')' :: given.shown.space ++
                        given.shown.lineBreak ++ "UNION".toList ++ given.shown.space ++
                          '(' :: text.trim ++ [')']))

/-- A registration leaves the store, the objects and the names alone. -/
theorem step_register (workspace : Workspace) (quiet : Bool) (name : Value)
    (features aliases : List Value) :
    let later := workspace.step quiet (.register name features aliases)
    later.store = workspace.store ∧ later.objects = workspace.objects ∧
      later.names = workspace.names := by
  have same (handles : List Handle) :
      List.zipWith Handle.become handles (handles.map (Handle.object workspace.store)) =
        handles := by
    induction handles with
    | nil => rfl
    | cons first rest ih => cases first <;> exact congrArg _ ih
  obtain ⟨objects, names⟩ := workspace.view.register_keeps name features aliases
  have outside : workspace.view.objects[workspace.objects.length]? = none :=
    List.getElem?_eq_none (List.length_map _).le
  have result : workspace.step quiet (.register name features aliases) =
      ⟨(workspace.view.register name features aliases).session.registry, workspace.store,
        List.zipWith Handle.become workspace.objects workspace.view.objects,
        workspace.view.names⟩ := by
    simp only [Workspace.step, Session.step, objects, names, outside]
    rfl
  rw [result]
  exact ⟨rfl, same workspace.objects, rfl⟩

/-- A workspace that is apart is isolated. -/
theorem IsApart.isIsolated (apart : workspace.IsApart) (quiet : Bool) :
    workspace.IsIsolated quiet where
  apart first second place other placed placedToo different _ found _ foundToo :=
    Store.cells_apart apart.forest (apart.placed first place placed).2
      (apart.placed second other placedToo).2
      (fun same => different (apart.distinct first second other (same ▸ placed) placedToo))
      found foundToo
  spared script named place inside spared := by
    obtain ⟨builder, value⟩ := apart.spared_after named inside spared
    refine ⟨builder, value, fun id name placed bound fresh layout => ?_⟩
    exact Session.render_congr (apart.find?_after named placed bound spared fresh) layout _ _
  called target id place method inputs result bound placed named := by
    intro step later changed
    have here := objects_of_place? placed
    have found := Session.find?_eq_some.mpr ⟨bound, here⟩
    obtain ⟨follows, view⟩ := apart.follows_call quiet bound placed method named result
    have standing := follows.keeps id place placed
    have names : later.names = _ := congrArg Session.names view
    refine ⟨standing, ?_, ?_, ?_, ?_⟩
    · have state := Session.objects_callStatement here quiet method inputs result
      rw [← view] at state
      exact Object.statement.inj (Option.some.inj ((objects_of_place? standing).symm.trans state))
    · rw [names]
      exact (Session.othersKept_callStatement here quiet method inputs result).names
    · rintro name text rfl answered
      rw [show workspace.view.step quiet step = _ from Session.step_call found ..] at answered
      rw [names]
      exact Session.lookup_of_isSame here answered
    · intro name called
      rw [names] at called
      rw [show later.view = _ from view]
      exact Session.find?_callStatement here called
  copied target id place method name bound placed copies := by
    intro later
    have here := objects_of_place? placed
    have named : [].all Input.isNamed = true := rfl
    obtain ⟨follows, view⟩ := apart.follows_call quiet bound placed method named (some name)
    rw [Session.session_call_copy here quiet copies] at view
    have newName : later.names.lookup name = some workspace.view.objects.length := by
      rw [show later.names = _ from congrArg Session.names view]
      exact List.lookup_cons_self
    have there : later.view.objects[workspace.view.objects.length]? =
        some (.statement (workspace.store.value place)) := by
      rw [show later.view.objects = _ from congrArg Session.objects view]
      exact List.getElem?_concat_length
    obtain ⟨copyPlace, standing, value⟩ := follows.apart.exists_place? there
    have new : workspace.store.length ≤ copyPlace := by
      refine (follows.fresh _ copyPlace standing).resolve_left fun old => ?_
      exact Nat.lt_irrefl _ (List.getElem?_eq_some_iff.mp (objects_of_place? old)).1
    exact ⟨_, copyPlace, newName, standing, value, fun inner reached =>
      new.trans (Store.le_of_mem_reached follows.apart.forest reached).1⟩
  embedded step named holder inner refers :=
    (apart.follows_step named quiet).1.touches.fresh holder inner refers
  registered := workspace.step_register quiet
  united target id place frame body queries bound placed shape supported bare layout given text
      resolved space lineBreak answered visible result := by
    intro later
    have here := objects_of_place? placed
    rw [shape] at here
    have found := Session.find?_eq_some.mpr ⟨bound, here⟩
    have named : (Step.call target (.text "union".toList) [.reference target] result).isNamed =
        true := rfl
    rw [show later.view = _ from (apart.follows_step named quiet).2]
    exact Session.answer_render_union found supported bare resolved space lineBreak answered visible
      result

/-- After every script of steps that name the builders that they are given, the store answers as
values would, and its builders are isolated from each other. -/
theorem isIsolated_after (quiet : Bool) (script : List Step)
    (named : ∀ step ∈ script, step.isNamed = true) :
    start.run quiet script = Session.start.run quiet script ∧
      (start.after quiet script).view = Session.start.after quiet script ∧
        (start.after quiet script).IsIsolated quiet := by
  obtain ⟨apart, view⟩ := isApart_start.after quiet named
  exact ⟨isApart_start.run_eq quiet named, view, apart.isIsolated quiet⟩

/-- Two columns under two names, a copy of them, and another query that is united with them. -/
def unitedScript : List Step :=
  [.create "q".toList .select [.argument (.value (.text "a".toList)),
     .argument (.value (.text "b".toList))] none none,
   .call "q".toList (.text "copy".toList) [] (some "c".toList),
   .call "q".toList (.text "raw".toList) [] (some "alias".toList),
   .create "t".toList .select [.argument (.value (.text "d".toList))] none none,
   .call "t".toList (.text "union".toList) [.reference "q".toList] none]

/-- The query united with itself. -/
def unitedWithItself : Step :=
  .call "q".toList (.text "union".toList) [.reference "q".toList] none

/-- Neither the copy nor what the query stands inside of takes notice of the call, both names of the
query do. -/
theorem unitedScript_isIsolated :
    let workspace := start.after true unitedScript
    let united := workspace.after true [unitedWithItself]
    let text (workspace : Workspace) (name : String) : Except Failure Answer :=
      (workspace.view.step true (.render name.toList (.known .compact))).answer
    text united "c" = text workspace "c" ∧ text united "t" = text workspace "t" ∧
      text workspace "t" = .ok (.text "(SELECT d) UNION (SELECT a, b)".toList) ∧
        united.view.find? "alias".toList = united.view.find? "q".toList ∧
          text united "q" = .ok (.text "(SELECT a, b) UNION (SELECT a, b)".toList) := by
  intro workspace united text
  obtain ⟨-, -, isolated⟩ := isIsolated_after true unitedScript (by decide)
  have named : ∀ step ∈ [unitedWithItself], step.isNamed = true := by decide
  have kept (name : String) (id place : Nat) (placed : workspace.place? id = some place)
      (bound : workspace.names.lookup name.toList = some id)
      (inside : place < workspace.store.length)
      (spared : workspace.touched? unitedWithItself ≠ some place) :
      text united name = text workspace name :=
    ((isolated.spared [unitedWithItself] named place inside ⟨spared, trivial⟩).2.2 id name.toList
      placed bound (List.forall_mem_singleton.mpr nofun) (.known .compact)).1
  have both := isolated.united "q".toList 0 0 _ _ [] rfl rfl rfl rfl (fun _ => ⟨rfl, rfl⟩)
    (.known .compact) (.ofLayout .compact) "SELECT a, b".toList rfl (by decide) (by decide) rfl
    (by decide) none
  have holder : ((start.after true unitedScript).view.step true
      (.render "t".toList (.known .compact))).answer =
        .ok (.text "(SELECT d) UNION (SELECT a, b)".toList) := rfl
  exact ⟨kept "c" 1 1 rfl rfl (by decide) (by decide),
    kept "t" 2 2 rfl rfl (by decide) (by decide), holder, rfl, both⟩

end SqlText.Workspace
