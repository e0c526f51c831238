import SqlText.Proofs.Isolation.Changing
import SqlText.Proofs.Isolation.Steps

/-!
# A store does what values do

A workspace is apart when its store is a forest, in which nobody refers to a builder that an object
stands for, and no two objects stand for the same builder (`Workspace.IsApart`). A step that brings
no builder along does two things then. It leaves the workspace apart, and makes of the present
values what it makes of a session of values (`Workspace.IsApart.follows_step`). So references that
are only ever put inside as copies cannot be told from values in any script
(`Workspace.IsApart.run_eq`).
-/

set_option autoImplicit false

namespace SqlText

/-! ## Arguments and their places -/

/-- The argument that a mention stands for in a call on a statement that takes no texts one after
another. -/
def Mention.given (statement : Statement) : Mention → Argument
  | .argument other => other
  | .itself => .statement statement

theorem Statement.meet_of_once {statement : Statement} {method : Method}
    (once : statement.takesEach method = false) (met : List Argument) (mentions : List Mention) :
    statement.meet method met mentions = met ++ mentions.map (Mention.given statement) := by
  induction mentions generalizing met with
  | nil => exact (List.append_nil met).symm
  | cons first rest ih =>
      have during : statement.during method met = statement := by
        rw [Statement.during, once]
        rfl
      cases first with
      | argument argument =>
          rw [meet, ih, List.append_assoc]
          rfl
      | itself =>
          rw [meet, ih, during, List.append_assoc]
          rfl

namespace Argument

variable {argument : Argument} {place : Option Nat}

/-- A builder among the arguments is told by its place, and anything else by itself. -/
theorem map_operandAt {values : Nat → Statement}
    (told : ∀ inner, argument = .statement inner → place.map values = some inner) :
    (argument.operandAt place).map (Operand.map values) = argument.operand? := by
  cases argument with
  | statement inner =>
      obtain ⟨there, rfl, rfl⟩ := Option.map_eq_some_iff.mp (told inner rfl)
      rfl
  | value | member | command | fixed | other => rfl

theorem eq_some_of_operandAt {operand : Operand Nat} {inner : Nat}
    (given : argument.operandAt place = some operand) (stands : operand.statement? = some inner) :
    place = some inner := by
  cases argument with
  | statement =>
      obtain ⟨there, rfl, rfl⟩ := Option.map_eq_some_iff.mp given
      exact stands
  | command | fixed =>
      cases given
      cases stands
  | value | member | other => cases given

end Argument

namespace Workspace

variable {workspace : Workspace} {id place : Nat}

/-! ## Objects and places -/

/-- The builders that the objects stand for have been kept apart. -/
structure IsApart (workspace : Workspace) : Prop where
  forest : workspace.store.IsForest
  placed : ∀ id place, workspace.place? id = some place →
    place < workspace.store.length ∧ workspace.store.IsRoot place
  distinct : ∀ first second place, workspace.place? first = some place →
    workspace.place? second = some place → first = second
  plain : ∀ (id : Nat) (statement : Statement),
    workspace.objects[id]? ≠ some (.plain (.statement statement))

theorem place?_eq_some :
    workspace.place? id = some place ↔ workspace.objects[id]? = some (.builder place) := by
  rw [place?, Option.bind_eq_some_iff]
  constructor
  · rintro ⟨handle, here, same⟩
    cases handle with
    | builder => exact Option.some.inj same ▸ here
    | plain => cases same
  · exact fun here => ⟨_, here, rfl⟩

theorem objects_view (workspace : Workspace) (id : Nat) :
    workspace.view.objects[id]? = workspace.objects[id]?.map (Handle.object workspace.store) :=
  List.getElem?_map

/-- The object of a builder is its present value. -/
theorem objects_of_place? (called : workspace.place? id = some place) :
    workspace.view.objects[id]? = some (.statement (workspace.store.value place)) := by
  rw [objects_view, place?_eq_some.mp called]
  rfl

namespace IsApart

variable (apart : workspace.IsApart)
include apart

/-- Every statement among the objects is that of a builder. -/
theorem exists_place? {statement : Statement}
    (here : workspace.view.objects[id]? = some (.statement statement)) :
    ∃ place, workspace.place? id = some place ∧ workspace.store.value place = statement := by
  rw [objects_view] at here
  obtain ⟨handle, there, same⟩ := Option.map_eq_some_iff.mp here
  cases handle with
  | builder place =>
      cases same
      exact ⟨place, place?_eq_some.mpr there, rfl⟩
  | plain object =>
      cases same
      exact absurd there (apart.plain id statement)

/-! ## Calls -/

section Call

variable (called : workspace.place? id = some place)

section Mentions

include called

/-- A statement that is mentioned is the value of the builder that its input refers to. -/
theorem told_of_mention {input : Input} (named : input.isNamed = true) {mention : Mention}
    (given : workspace.view.mention id input = .ok mention) (inner : Statement)
    (same : mention.given (workspace.store.value place) = .statement inner) :
    (workspace.inputPlace? input).map workspace.store.value = some inner := by
  cases input with
  | reference name =>
      obtain ⟨⟨other, object⟩, known, chosen⟩ := bind_eq_ok.mp given
      have found : workspace.view.find? name = some (other, object) := by
        rw [Session.find] at known
        split at known
        · cases known
          assumption
        · cases known
      obtain ⟨bound, there⟩ := Session.find?_eq_some.mp found
      have position : workspace.inputPlace? (.reference name) = workspace.place? other := by
        rw [inputPlace?, show workspace.names.lookup name = some other from bound]
        rfl
      rw [position]
      by_cases itself : other = id
      · subst itself
        simp only [if_true] at chosen
        cases chosen
        cases same
        rw [called]
        rfl
      · simp only [if_neg itself] at chosen
        cases chosen
        cases object with
        | statement statement =>
            cases same
            obtain ⟨placeToo, standing, value⟩ := apart.exists_place? there
            rw [standing, ← value]
            rfl
        | factory | text | parts => cases same
  | argument argument =>
      cases given
      cases argument with
      | statement => cases named
      | value | member | command | fixed | other => cases same
  | member path =>
      obtain ⟨argument, resolved, chosen⟩ := bind_eq_ok.mp given
      obtain ⟨entry, -, shape⟩ := bind_eq_ok.mp resolved
      cases chosen
      cases shape
      cases same
  | command keyword own =>
      obtain ⟨argument, resolved, chosen⟩ := bind_eq_ok.mp given
      obtain ⟨kind, -, shape⟩ := bind_eq_ok.mp resolved
      cases chosen
      cases shape
      cases same

/-- The operands of a call are the same whether they are told by their places or by their values. -/
theorem map_operands {inputs : List Input} (named : inputs.all Input.isNamed = true)
    {mentions : List Mention} (given : workspace.view.mentions id inputs = .ok mentions) :
    let arguments := mentions.map (Mention.given (workspace.store.value place))
    (List.zipWith Argument.operandAt arguments (inputs.map workspace.inputPlace?)).map
        (Option.map (Operand.map workspace.store.value)) =
      arguments.map Argument.operand? := by
  induction inputs generalizing mentions with
  | nil =>
      cases given
      rfl
  | cons first rest ih =>
      obtain ⟨mention, givenFirst, others⟩ := bind_eq_ok.mp given
      obtain ⟨restMentions, givenRest, shape⟩ := bind_eq_ok.mp others
      cases shape
      rw [List.all_cons, Bool.and_eq_true] at named
      have head := Argument.map_operandAt
        (apart.told_of_mention called named.1 givenFirst)
      exact congrArg₂ List.cons head (ih named.2 givenRest)

end Mentions

/-- The builders that a call is given are there. -/
theorem lt_of_mem_operands {arguments : List Argument} {inputs : List Input}
    {operand : Operand Nat} {inner : Nat}
    (among : some operand ∈
      List.zipWith Argument.operandAt arguments (inputs.map workspace.inputPlace?))
    (stands : operand.statement? = some inner) : inner < workspace.store.length := by
  obtain ⟨index, here⟩ := List.mem_iff_getElem?.mp among
  obtain ⟨argument, position, -, referred, given⟩ := List.getElem?_zipWith_eq_some.mp here
  obtain rfl := Argument.eq_some_of_operandAt given stands
  obtain ⟨input, -, refers⟩ := List.mem_map.mp (List.mem_of_getElem? referred)
  cases input with
  | reference name =>
      obtain ⟨id, -, standing⟩ := Option.bind_eq_some_iff.mp refers
      exact (apart.placed id inner standing).1
  | argument | member | command => cases refers

section CallOn

variable {inputs : List Input} (named : inputs.all Input.isNamed = true) (name : Text)
include called named

/-- A call on a builder does the same to the store as to the value: it touches nothing else, and
leaves the value in the state that a call on the value leaves. -/
theorem callOn_spec :
    Store.Touches workspace.store (workspace.callOn id place name inputs) (some place) ∧
      (workspace.callOn id place name inputs).value place =
        workspace.view.calledState id (workspace.store.value place) name inputs := by
  have inside := (apart.placed id place called).1
  rw [callOn]
  cases found : (workspace.store.value place).method name with
  | error failure =>
      simp only [Session.calledState, found]
      exact ⟨.refl apart.forest _, trivial⟩
  | ok method =>
      cases given : workspace.view.mentions id inputs with
      | error failure =>
          simp only [Session.calledState, found, given]
          exact ⟨.refl apart.forest _, trivial⟩
      | ok mentions =>
          have kinds : (workspace.store.value place).kind =
              (workspace.store.builder place).own.kind := by
            rw [Store.value_eq apart.forest, Builder.value, Statement.kind_foldl_put]
          have told (once : (workspace.store.builder place).own.takesEach method = false) := by
            have onceToo : (workspace.store.value place).takesEach method = false := by
              rwa [Statement.takesEach, kinds]
            have same := apart.map_operands called named given
            rw [← List.nil_append (mentions.map _), ← Statement.meet_of_once onceToo] at same
            exact same
          rw [Session.calledState_of_found found given]
          exact ⟨Store.touches_call apart.forest inside told fun _ _ => apart.lt_of_mem_operands,
            Store.value_call apart.forest inside told fun _ _ => apart.lt_of_mem_operands⟩

end CallOn
end Call

end IsApart

/-! ## Changes in place -/

/-- The place of the builder that a step is done to. -/
def touched? (workspace : Workspace) (step : Step) : Option Nat :=
  (workspace.view.target? step).bind workspace.place?

theorem target?_of_calling? {session : Session} {step : Step} {name : Text} {inputs : List Input}
    (calls : session.calling? step = some (id, name, inputs)) : session.target? step = some id := by
  unfold Session.calling? at calls
  split at calls
  · split at calls
    · rename_i found
      cases calls
      simp only [Session.target?, found, Option.map_some]
    · cases calls
  · split at calls
    · rename_i found
      split at calls
      · cases calls
      · rename_i own
        cases calls
        simp only [Session.target?, if_neg own, found, Option.map_some]
    · cases calls
  · cases calls

theorem isNamed_of_calling? {session : Session} {step : Step} {name : Text} {inputs : List Input}
    (calls : session.calling? step = some (id, name, inputs)) (named : step.isNamed = true) :
    inputs.all Input.isNamed = true := by
  unfold Session.calling? at calls
  split at calls
  · split at calls
    · cases calls
      exact named
    · cases calls
  · split at calls
    · split at calls
      · cases calls
      · cases calls
        exact named
    · cases calls
  · cases calls

theorem target?_of_rededicating? {session : Session} {step : Step} {dialect : Dialect}
    (gives : session.rededicating? step = some (id, dialect)) :
    session.target? step = some id := by
  unfold Session.rededicating? at gives
  split at gives
  · split at gives
    · rename_i found _
      cases gives
      simp only [Session.target?, found, Option.map_some]
    · cases gives
  · cases gives

theorem place?_eq_none
    (other : ∀ statement, workspace.view.objects[id]? ≠ some (.statement statement)) :
    workspace.place? id = none := by
  cases called : workspace.place? id with
  | none => rfl
  | some place => exact absurd (objects_of_place? called) (other _)

namespace IsApart

variable (apart : workspace.IsApart)
include apart

/-- A change that touches the builder of one object leaves the values of all others. -/
theorem objects_set {after : Store} (called : workspace.place? id = some place)
    (touches : workspace.store.Touches after (some place)) {other otherPlace : Nat}
    (placed : workspace.place? other = some otherPlace) :
    (workspace.view.objects.set id (.statement (after.value place)))[other]? =
      some (.statement (after.value otherPlace)) := by
  by_cases same : id = other
  · subst same
    obtain rfl : place = otherPlace := Option.some.inj (called.symm.trans placed)
    exact List.getElem?_set_self (List.getElem?_eq_some_iff.mp (objects_of_place? called)).1
  · have root : ∀ root, some place = some root → workspace.store.IsRoot root := by
      rintro root ⟨⟩
      exact (apart.placed id place called).2
    have elsewhere : some place ≠ some otherPlace := by
      rintro ⟨⟩
      exact same (apart.distinct id other place called placed)
    rw [List.getElem?_set_ne same, objects_of_place? placed,
      touches.value_eq apart.forest root (apart.placed other otherPlace placed).1 elsewhere]

/-- A step changes the store as it changes the objects: it touches the builder that it is done to,
and the builders have the values that the objects have. -/
theorem changed_spec {step : Step} (named : step.isNamed = true) {kept : List Object}
    (changes : workspace.view.Changes step kept) :
    workspace.store.Touches (workspace.changed step) (workspace.touched? step) ∧
      ∀ other otherPlace, workspace.place? other = some otherPlace →
        kept[other]? = some (.statement ((workspace.changed step).value otherPlace)) := by
  cases changes with
  | @called id name inputs _ calls here =>
      obtain ⟨place, called, rfl⟩ := apart.exists_place? here
      have shape : workspace.changed step = workspace.callOn id place name inputs := by
        simp only [changed, calls, called]
      have touched : workspace.touched? step = some place := by
        rw [touched?, target?_of_calling? calls]
        exact called
      obtain ⟨touches, value⟩ := apart.callOn_spec called (isNamed_of_calling? calls named) _
      rw [shape, touched, ← value]
      exact ⟨touches, fun _ _ placed => apart.objects_set called touches placed⟩
  | @rededicated id dialect _ calls gives here =>
      obtain ⟨place, called, rfl⟩ := apart.exists_place? here
      have shape : workspace.changed step = workspace.store.rededicate place dialect := by
        simp only [changed, calls, gives, called]
      have touched : workspace.touched? step = some place := by
        rw [touched?, target?_of_rededicating? gives]
        exact called
      have inside := (apart.placed id place called).1
      have touches := Store.touches_rededicate apart.forest inside dialect
      have value := Store.value_rededicate apart.forest inside dialect
      rw [shape, touched, ← value]
      exact ⟨touches, fun _ _ placed => apart.objects_set called touches placed⟩
  | @disabled id _ _ calls gives here =>
      have free : workspace.place? id = none := place?_eq_none (by rw [here]; nofun)
      have shape : workspace.changed step = workspace.store := by
        simp only [changed, calls, gives, free]
      rw [shape]
      refine ⟨.refl apart.forest _, fun other otherPlace placed => ?_⟩
      have different : id ≠ other := by
        rintro rfl
        cases free.symm.trans placed
      rw [List.getElem?_set_ne different, objects_of_place? placed]
  | nothing calls gives =>
      have shape : workspace.changed step = workspace.store := by
        cases given : workspace.view.rededicating? step with
        | none => simp only [changed, calls, given]
        | some gift =>
            have free := place?_eq_none (gives gift.1 gift.2 given)
            simp only [changed, calls, given, free]
      rw [shape]
      exact ⟨.refl apart.forest _, fun _ _ placed => objects_of_place? placed⟩

end IsApart

/-- After a step, or a part of one, the workspace is apart. Nothing is touched but one builder, if
there is one, objects stand for the builders that they did, and other objects for new ones. -/
structure Follows (before after : Workspace) (touched : Option Nat) : Prop where
  apart : after.IsApart
  touches : before.store.Touches after.store touched
  keeps : ∀ id place, before.place? id = some place → after.place? id = some place
  fresh : ∀ id place, after.place? id = some place →
    before.place? id = some place ∨ before.store.length ≤ place

theorem Follows.trans {before between after : Workspace} {touched : Option Nat}
    (first : Follows before between touched) (second : Follows between after none) :
    Follows before after touched where
  apart := second.apart
  touches := first.touches.trans (second.touches.of_none touched)
  keeps id place placed := second.keeps id place (first.keeps id place placed)
  fresh id place placed :=
    (second.fresh id place placed).elim (first.fresh id place)
      fun later => .inr (first.touches.longer.trans later)

namespace IsApart

variable (apart : workspace.IsApart)
include apart

/-- A step that has changed its object has followed the objects. -/
theorem follows_changed {step : Step} (named : step.isNamed = true) {kept : List Object}
    (changes : workspace.view.Changes step kept) (registry : Registry) (names : List (Text × Nat)) :
    let left : Workspace :=
      ⟨registry, workspace.changed step, List.zipWith Handle.become workspace.objects kept, names⟩
    workspace.Follows left (workspace.touched? step) ∧ left.view.objects = kept := by
  intro left
  obtain ⟨touches, values⟩ := apart.changed_spec named changes
  have count : kept.length = workspace.objects.length :=
    changes.length_eq.trans (List.length_map _)
  have became {id : Nat} {handle : Handle} (there : left.objects[id]? = some handle) :
      ∃ before object, workspace.objects[id]? = some before ∧ kept[id]? = some object ∧
        before.become object = handle :=
    List.getElem?_zipWith_eq_some.mp there
  have same {id place : Nat} (placed : left.place? id = some place) :
      workspace.place? id = some place := by
    obtain ⟨before, object, there, -, shape⟩ := became (place?_eq_some.mp placed)
    cases before with
    | builder =>
        cases shape
        exact place?_eq_some.mpr there
    | plain => cases shape
  have leftApart : left.IsApart :=
    { forest := touches.forest
      placed := fun id place placed => by
        obtain ⟨inside, free⟩ := apart.placed id place (same placed)
        exact ⟨inside.trans_le touches.longer, touches.roots place inside free⟩
      distinct := fun first second place placed placedToo =>
        apart.distinct first second place (same placed) (same placedToo)
      plain := fun id statement there => by
        obtain ⟨before, object, here, after, shape⟩ := became there
        cases before with
        | builder => cases shape
        | plain other =>
            cases shape
            obtain ⟨statement, held⟩ := changes.exists_statement after
            rw [objects_view, here] at held
            cases held
            exact apart.plain id statement here }
  refine ⟨⟨leftApart, touches, fun id place placed => ?_, fun _ _ placed => .inl (same placed)⟩,
    List.ext_getElem? fun id => ?_⟩
  · exact place?_eq_some.mpr <| List.getElem?_zipWith_eq_some.mpr
      ⟨_, _, place?_eq_some.mp placed, values id place placed, rfl⟩
  · rw [objects_view]
    cases here : left.objects[id]? with
    | none =>
        have outside := List.getElem?_eq_none_iff.mp here
        rw [List.length_zipWith, count, Nat.min_self, ← count] at outside
        exact (List.getElem?_eq_none outside).symm
    | some handle =>
        obtain ⟨before, object, there, after, rfl⟩ := became here
        rw [after]
        cases before with
        | builder place =>
            have value := values id place (place?_eq_some.mpr there)
            exact value.symm.trans after
        | plain => rfl

end IsApart

/-! ## New objects -/

/-- What stands for a new object is new, and has the object's value. -/
structure Stands (before after : Store) (handle : Handle) (object : Object) : Prop where
  touches : before.Touches after none
  value : handle.object after = object
  fresh : ∀ place, handle.place? = some place →
    before.length ≤ place ∧ place < after.length ∧ after.IsRoot place
  plain : ∀ statement, handle ≠ .plain (.statement statement)

namespace IsApart

variable (apart : workspace.IsApart)
include apart

/-- A workspace to which something new has been added follows. -/
theorem follows_add {after : Store} {handle : Handle} {object : Object}
    (stands : Stands workspace.store after handle object) (registry : Registry)
    (names : List (Text × Nat)) :
    let wider : Workspace := ⟨registry, after, workspace.objects ++ [handle], names⟩
    workspace.Follows wider none ∧ wider.view.objects = workspace.view.objects ++ [object] := by
  intro wider
  have either {id : Nat} {other : Handle} (there : wider.objects[id]? = some other) :
      workspace.objects[id]? = some other ∨ id = workspace.objects.length ∧ other = handle := by
    by_cases old : id < workspace.objects.length
    · exact .inl ((List.getElem?_append_left old).symm.trans there)
    · have inside : id < workspace.objects.length + 1 := by
        have shorter := (List.getElem?_eq_some_iff.mp there).1
        rwa [List.length_append] at shorter
      obtain rfl : id = workspace.objects.length := by omega
      exact .inr ⟨rfl, Option.some.inj (there.symm.trans List.getElem?_concat_length)⟩
  have origin {id place : Nat} (placed : wider.place? id = some place) :
      workspace.place? id = some place ∨
        id = workspace.objects.length ∧ handle.place? = some place := by
    rcases either (place?_eq_some.mp placed) with old | ⟨last, rfl⟩
    · exact .inl (place?_eq_some.mpr old)
    · exact .inr ⟨last, rfl⟩
  have new {place : Nat} (standing : handle.place? = some place) {other otherPlace : Nat}
      (placed : workspace.place? other = some otherPlace) : otherPlace ≠ place :=
    ((apart.placed other otherPlace placed).1.trans_le (stands.fresh place standing).1).ne
  have widerApart : wider.IsApart :=
    { forest := stands.touches.forest
      placed := fun id place placed => by
        rcases origin placed with old | ⟨-, standing⟩
        · obtain ⟨inside, free⟩ := apart.placed id place old
          exact ⟨inside.trans_le stands.touches.longer, stands.touches.roots place inside free⟩
        · exact (stands.fresh place standing).2
      distinct := fun first second place placed placedToo => by
        rcases origin placed with old | ⟨last, standing⟩ <;>
          rcases origin placedToo with oldToo | ⟨lastToo, standingToo⟩
        · exact apart.distinct first second place old oldToo
        · exact absurd rfl (new standingToo old)
        · exact absurd rfl (new standing oldToo)
        · exact last.trans lastToo.symm
      plain := fun id statement there => by
        rcases either there with old | ⟨-, same⟩
        · exact apart.plain id statement old
        · exact stands.plain statement same.symm }
  have objects : workspace.objects.map (Handle.object after) = workspace.view.objects := by
    refine List.map_congr_left fun other member => ?_
    cases other with
    | plain => rfl
    | builder place =>
        obtain ⟨id, here⟩ := List.mem_iff_getElem?.mp member
        have inside := (apart.placed id place (place?_eq_some.mpr here)).1
        have value := stands.touches.value_eq apart.forest nofun inside nofun
        exact congrArg Object.statement value
  refine ⟨⟨widerApart, stands.touches, fun id place placed => ?_, fun id place placed => ?_⟩, ?_⟩
  · have here := place?_eq_some.mp placed
    have inside : id < workspace.objects.length := (List.getElem?_eq_some_iff.mp here).1
    exact place?_eq_some.mpr ((List.getElem?_append_left inside).trans here)
  · exact (origin placed).imp_right fun new => (stands.fresh place new.2).1
  · calc wider.view.objects
        = workspace.objects.map (Handle.object after) ++ [handle.object after] := List.map_append
      _ = workspace.view.objects ++ [object] := by rw [objects, stands.value]

/-- What a step adds stands for the new object. -/
theorem stands_added {step : Step} (named : step.isNamed = true) {kept : List Object}
    (changes : workspace.view.Changes step kept) {object : Object}
    (adds : workspace.view.Adds step (some object)) :
    let new := workspace.added step object
    Stands (workspace.changed step) new.1 new.2 object := by
  intro new
  obtain ⟨touches, values⟩ := apart.changed_spec named changes
  have forest := touches.forest
  cases adds with
  | plain other =>
      have shape : new = (workspace.changed step, .plain object) := by
        simp only [new, added]
        cases object with
        | statement statement => exact absurd rfl (other statement)
        | factory | text | parts => rfl
      rw [shape]
      refine ⟨.refl forest _, rfl, nofun, fun statement same => ?_⟩
      cases same
      exact other statement rfl
  | @made statement calls bare =>
      have shape : new = ((workspace.changed step).made statement,
          .builder (workspace.changed step).length) := by
        simp only [new, added, calls]
        rfl
      rw [shape]
      refine ⟨Store.touches_made forest bare none, ?_, ?_, nofun⟩
      · exact congrArg Object.statement (Store.value_made_length forest bare)
      · rintro _ ⟨⟩
        exact ⟨Nat.le_refl _, by rw [Store.length_made]; exact Nat.lt_succ_self _,
          Store.isRoot_made_length forest⟩
  | copied calls here =>
      obtain ⟨place, standing, rfl⟩ := apart.exists_place? here
      have inside := ((apart.placed _ place standing).1).trans_le touches.longer
      have shape : new = ((workspace.changed step).copied place,
          .builder ((workspace.changed step).copyPlace place place)) := by
        simp only [new, added, calls, Option.bind_some, standing]
      have state := (values _ place standing).symm.trans (changes.objects_of_calling? calls here)
      have itself := Store.mem_reached_self forest inside
      rw [shape]
      refine ⟨.copied forest place none, ?_, ?_, nofun⟩
      · rw [← Option.some.inj state]
        exact congrArg Object.statement (Store.value_copyPlace forest itself)
      · rintro _ ⟨⟩
        exact ⟨Store.le_copyPlace _ place place, Store.copyPlace_lt forest itself,
          Store.isRoot_copyPlace forest inside⟩

/-! ## Steps -/

/-- A step does to a workspace what it does to a session of values. It touches no builder but the
one that it is done to. -/
theorem follows_step {step : Step} (named : step.isNamed = true) (quiet : Bool) :
    workspace.Follows (workspace.step quiet step) (workspace.touched? step) ∧
      (workspace.step quiet step).view = (workspace.view.step quiet step).session := by
  obtain ⟨kept, added, changes, adds, shape⟩ := workspace.view.stepsTo_step quiet step
  rcases after : (workspace.view.step quiet step).session with ⟨registry, objects, names⟩
  rw [after] at shape
  subst shape
  have count : workspace.objects.length = kept.length :=
    (List.length_map _).symm.trans changes.length_eq.symm
  have handles : List.zipWith Handle.become workspace.objects (kept ++ added.toList) =
      List.zipWith Handle.become workspace.objects kept := by
    have both : List.zipWith Handle.become (workspace.objects ++ []) (kept ++ added.toList) =
        List.zipWith Handle.become workspace.objects kept ++
          List.zipWith Handle.become [] added.toList :=
      List.zipWith_append count
    rwa [List.append_nil, List.zipWith_nil_left, List.append_nil] at both
  obtain ⟨follows, keptObjects⟩ := apart.follows_changed named changes registry names
  cases added with
  | none =>
      have new : (kept ++ [])[workspace.objects.length]? = none := by
        rw [List.append_nil, count]
        exact List.getElem?_eq_none (Nat.le_refl _)
      have result : workspace.step quiet step = ⟨registry, workspace.changed step,
          List.zipWith Handle.become workspace.objects kept, names⟩ := by
        rw [Option.toList_none] at after handles
        simp only [Workspace.step, after, new, handles]
      rw [result, Option.toList_none, List.append_nil]
      exact ⟨follows, congrArg (Session.mk registry · names) keptObjects⟩
  | some object =>
      have stands := apart.stands_added named changes adds
      obtain ⟨wider, whole⟩ := follows.apart.follows_add stands registry names
      have new : (kept ++ [object])[workspace.objects.length]? = some object := by
        rw [count]
        exact List.getElem?_concat_length
      have result : workspace.step quiet step =
          ⟨registry, (workspace.added step object).1,
            List.zipWith Handle.become workspace.objects kept ++ [(workspace.added step object).2],
            names⟩ := by
        rw [Option.toList_some] at after handles
        simp only [Workspace.step, after, new, handles]
      rw [result]
      exact ⟨follows.trans wider, congrArg (Session.mk registry · names)
        (whole.trans (congrArg (· ++ [object]) keptObjects))⟩

/-! ## Scripts -/

section Scripts

variable (quiet : Bool) {script : List Step} (named : ∀ step ∈ script, step.isNamed = true)
include named

/-- So does a script. -/
theorem after :
    (workspace.after quiet script).IsApart ∧
      (workspace.after quiet script).view = workspace.view.after quiet script := by
  induction script generalizing workspace with
  | nil => exact ⟨apart, rfl⟩
  | cons first rest ih =>
      rw [List.forall_mem_cons] at named
      obtain ⟨follows, view⟩ := apart.follows_step named.1 quiet
      have later := ih follows.apart named.2
      rw [view] at later
      exact later

/-- The answers, and what is noted, are those of values. -/
theorem run_eq : workspace.run quiet script = workspace.view.run quiet script := by
  induction script generalizing workspace with
  | nil => rfl
  | cons first rest ih =>
      rw [List.forall_mem_cons] at named
      obtain ⟨follows, view⟩ := apart.follows_step named.1 quiet
      rw [run, Session.run, ih follows.apart named.2, view]

end Scripts

end IsApart

/-- Nothing is shared where there is nothing. -/
theorem isApart_start : start.IsApart where
  forest :=
    { behind := fun _ _ => nofun
      once := fun _ => List.nodup_nil
      apart := fun _ _ _ => nofun
      bare := fun _ _ => nofun
      celled := fun _ => nofun
      alone := fun _ => nofun }
  placed _ _ := nofun
  distinct _ _ _ := nofun
  plain _ _ := nofun

end Workspace
end SqlText
