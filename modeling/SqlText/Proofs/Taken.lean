import SqlText.Proofs.Gating.Basic
import SqlText.Proofs.History

/-!
# What a statement has been given

However a statement comes about, it can be told what it has been given on the way
(`Statement.HasTaken`): by the texts that it was asked for with, and by every call since, successful
or not. Another dialect gives it nothing. Every statement that comes about has such a history
(`Statement.Reachable.exists_hasTaken`), and each of its slots holds what the acts that write to the
slot make of an empty one, in their order (`Statement.HasTaken.content_eq`).

So what the methods of a slot have been given can be read off the history as a list of texts
(`textsGiven`), whatever was given to the other slots in between. The raw text at the start is the
first occurrences of what was given for it.
-/

set_option autoImplicit false

namespace SqlText

open Text

/-- The texts that acts give by one of the methods, in their order: each of them trimmed, and those
left out of which nothing is left. -/
def textsGiven (methods : List Method) (acts : List Act) : List Text :=
  (acts.filter (·.method ∈ methods)).flatMap fun act => givenTexts (fragments act.arguments)

theorem mem_textsGiven {methods : List Method} {acts : List Act} {text : Text} :
    text ∈ textsGiven methods acts ↔
      ∃ act ∈ acts, act.method ∈ methods ∧ text ∈ givenTexts (fragments act.arguments) := by
  simp only [textsGiven, List.mem_flatMap, List.mem_filter, decide_eq_true_eq, and_assoc]

theorem isFragment_of_mem_textsGiven {methods : List Method} {acts : List Act} :
    ∀ text ∈ textsGiven methods acts, text.IsFragment := by
  intro text member
  obtain ⟨act, -, -, given⟩ := mem_textsGiven.mp member
  exact isFragment_of_mem_givenTexts text given

namespace Statement

/-! ## Statements with a history -/

/-- A statement comes about, and the acts are what it has been given since there was nothing in
it. -/
inductive HasTaken : Statement → List Act → Prop where
  /-- A new statement has been given the texts that it was asked for with. -/
  | created {request : Request} {registry : Registry} {statement : Statement}
      (made : request.create registry = .ok statement) : HasTaken statement request.acts
  /-- After a call, successful or not, a statement has been given what the call has taken. -/
  | called {statement : Statement} {acts : List Act} (call : Call)
      (taken : HasTaken statement acts)
      (real : ∀ entry, .member entry ∈ call.arguments → entry ∈ Member.all)
      (inside : ∀ inner, .statement inner ∈ call.arguments → Reachable inner) :
      HasTaken (statement.leftByCall call) (acts ++ (statement.taken? call).toList)
  /-- Under another dialect a statement has been given the same. -/
  | rededicated {statement : Statement} {acts : List Act} (dialect : Dialect)
      (taken : HasTaken statement acts) : HasTaken (statement.withDialect dialect) acts

namespace HasTaken

variable {statement : Statement} {acts : List Act}

theorem reachable (taken : statement.HasTaken acts) : statement.Reachable := by
  induction taken with
  | created made => exact .created made
  | @called statement acts call _ real inside ih =>
      rw [leftByCall]
      cases found : statement.method call.name with
      | error failure => exact ih
      | ok method => exact .called call.name call.arguments ih found real inside
  | rededicated dialect _ ih => exact .rededicated dialect ih

/-- A run of calls adds its history to that of the statement before it. -/
theorem leftByAll (taken : statement.HasTaken acts) {calls : List Call}
    (real : ∀ call ∈ calls, ∀ entry, .member entry ∈ call.arguments → entry ∈ Member.all)
    (inside : ∀ call ∈ calls, ∀ inner, .statement inner ∈ call.arguments → Reachable inner) :
    (statement.leftByAll calls).HasTaken (acts ++ statement.history calls) := by
  induction calls generalizing statement acts with
  | nil =>
      rw [history, List.append_nil]
      exact taken
  | cons call rest ih =>
      have next := taken.called call (real call List.mem_cons_self) (inside call List.mem_cons_self)
      have later := ih next (fun other member => real other (List.mem_cons_of_mem _ member))
        (fun other member => inside other (List.mem_cons_of_mem _ member))
      rwa [List.append_assoc] at later

end HasTaken

/-- Every statement that comes about has a history. -/
theorem Reachable.exists_hasTaken {statement : Statement} (reachable : statement.Reachable) :
    ∃ acts, statement.HasTaken acts := by
  induction reachable with
  | created made => exact ⟨_, .created made⟩
  | @called statement name method arguments _ found real inside ih =>
      obtain ⟨acts, taken⟩ := ih
      have next := taken.called ⟨name, arguments⟩ real inside
      rw [leftByCall, found] at next
      exact ⟨_, next⟩
  | rededicated dialect _ ih =>
      obtain ⟨acts, taken⟩ := ih
      exact ⟨acts, taken.rededicated dialect⟩

/-! ## What the slots hold -/

/-- What a statement has in its slots does not depend on its dialect. -/
theorem content_withDialect (statement : Statement) (dialect : Dialect) (slot : Slot) :
    (statement.withDialect dialect).content slot = statement.content slot := by
  cases slot <;> simp only [content, withDialect, frame_withFrame, bodyContent_withFrame]

theorem kind_withDialect (statement : Statement) (dialect : Dialect) :
    (statement.withDialect dialect).kind = statement.kind := kind_withFrame ..

theorem content_empty (kind : Kind) (dialect other : Dialect) (slot : Slot) :
    (empty kind dialect).content slot = (empty kind other).content slot := by
  have same : empty kind dialect = (empty kind other).withDialect dialect := by
    cases kind <;> rfl
  rw [same, content_withDialect]

namespace HasTaken

variable {statement : Statement} {acts : List Act}

/-- A slot holds what the acts that write to it make of an empty one. -/
theorem content_eq (taken : statement.HasTaken acts) (dialect : Dialect) (slot : Slot) :
    statement.content slot =
      (statement.kind.actsAt slot acts).foldl Content.after
        ((empty statement.kind dialect).content slot) := by
  induction taken with
  | created made =>
      obtain ⟨found, -, -, rfl⟩ := eq_statement_of_create made
      rw [content_statement, kind_statement, content_empty _ found.dialect dialect]
  | @called statement acts call _ _ _ ih =>
      rw [content_leftByCall, ih, (kind_and_dialect_leftByCall statement call).1, Kind.actsAt,
        Kind.actsAt, Kind.actsAt, List.filter_append, List.foldl_append]
  | rededicated dialect _ ih => rw [content_withDialect, kind_withDialect, ih]

/-- A list gathers what the acts that write to it give. -/
theorem gathers (taken : statement.HasTaken acts) (slot : Slot) :
    (statement.content slot).Gathers (statement.kind.actsAt slot acts) := by
  rw [taken.content_eq statement.dialect]
  exact (gathers_empty statement.kind statement.dialect slot).foldl_after _

/-- A single value is what the last act that writes to it makes of an empty one. -/
theorem content_eq_last (taken : statement.HasTaken acts) (dialect : Dialect) {slot : Slot}
    (single : ((empty statement.kind dialect).content slot).mode ≠ .ordered) :
    statement.content slot =
      ((statement.kind.actsAt slot acts).getLast?.map
        ((empty statement.kind dialect).content slot).after).getD
        ((empty statement.kind dialect).content slot) := by
  rw [taken.content_eq dialect, Content.foldl_after single]

/-- Whatever a statement has been given, it was asked for with it, or a call with it was carried out
on the statement as it was before. -/
theorem exists_apply (taken : statement.HasTaken acts) :
    ∀ act ∈ acts, statement.kind.opening = some act.method ∨
      ∃ earlier changed : Statement, earlier.kind = statement.kind ∧
        ((earlier.kind.arity act.method).fits act.arguments.length = true ∨
          earlier.takesEach act.method = true) ∧
        earlier.apply act.method act.arguments = .ok changed := by
  induction taken with
  | @created request registry statement made =>
      intro act member
      rw [kind_of_create made]
      rw [Request.acts] at member
      split at member
      · rename_i method text texts opens given
        rw [List.mem_singleton.mp member]
        exact .inl opens
      · cases member
  | @called statement acts call _ _ _ ih =>
      intro act member
      rw [(kind_and_dialect_leftByCall statement call).1]
      rcases List.mem_append.mp member with old | new
      · exact ih act old
      · rcases statement.leftByCall_cases call with ⟨nothing, -⟩ | ⟨other, taken, fits, applied⟩
        · rw [nothing] at new
          cases new
        · rw [taken, Option.toList_some] at new
          rw [List.mem_singleton.mp new]
          exact .inr ⟨statement, _, rfl, fits, applied⟩
  | rededicated dialect _ ih =>
      rw [kind_withDialect]
      exact ih

end HasTaken
end Statement

/-! ## Which acts write to a slot -/

/-- A slot of the body is written to by the method alone, whatever the arguments. -/
theorem Kind.slot?_eq_some_iff (kind : Kind) {slot : Slot} (ofBody : slot.IsOfBody)
    (method : Method) (arguments : List Argument) :
    kind.slot? method arguments = some slot ↔ kind.bodySlot? method = some slot := by
  refine ⟨fun writes => Kind.bodySlot?_of_slot? writes ofBody, fun writes => ?_⟩
  cases method with
  | raw | rawBefore | rawAfter =>
      rw [bodySlot?] at writes
      split at writes <;> cases writes
  | _ => exact writes

/-- The acts that write to a slot of the body are those of its methods. -/
theorem Kind.actsAt_eq_filter (kind : Kind) {slot : Slot} (ofBody : slot.IsOfBody)
    {isOwn : Method → Prop} [DecidablePred isOwn]
    (own : ∀ method, kind.bodySlot? method = some slot ↔ isOwn method) (acts : List Act) :
    kind.actsAt slot acts = acts.filter fun act => isOwn act.method := by
  refine List.filter_congr fun act _ => decide_eq_decide.mpr ?_
  rw [kind.slot?_eq_some_iff ofBody, own]

/-- Only one method writes to the raw text at the start. -/
theorem Kind.slot?_eq_raw_iff (kind : Kind) (method : Method) (arguments : List Argument) :
    kind.slot? method arguments = some .raw ↔ method = .raw := by
  unfold Kind.slot?
  split
  · exact ⟨fun _ => rfl, fun _ => rfl⟩
  · refine ⟨fun writes => ?_, nofun⟩
    obtain ⟨clause, -, impossible⟩ := Option.map_eq_some_iff.mp writes
    cases impossible
  · refine ⟨fun writes => ?_, nofun⟩
    obtain ⟨clause, -, impossible⟩ := Option.map_eq_some_iff.mp writes
    cases impossible
  · rename_i other _ _
    exact ⟨fun writes => (Kind.isOfBody_of_bodySlot? writes).elim, fun same => absurd same other⟩

/-- Raw text is written with the terminator behind each fragment. -/
theorem Layout.rawText_eq_followed (layout : Layout) {fragments : List Text}
    (visible : ∀ text ∈ fragments, text ≠ []) :
    layout.rawText fragments = followed layout.terminator fragments := by
  rw [rawText, filter_ne_nil visible, terminated]
  by_cases isEmpty : fragments = []
  · rw [isEmpty]
    rfl
  · rw [if_neg (mt (join_eq_nil_iff visible).mp isEmpty), followed_eq _ isEmpty]

/-- The raw text at the start of a statement is the first occurrences of what it was given. -/
theorem Statement.HasTaken.raw_eq {statement : Statement} {acts : List Act}
    (taken : statement.HasTaken acts) :
    statement.frame.raw = (textsGiven [.raw] acts).eraseDups := by
  have gathers : (Content.texts statement.frame.raw).Gathers _ := taken.gathers .raw
  rw [Content.Gathers, Kind.actsAt] at gathers
  simp only [Kind.slot?_eq_raw_iff] at gathers
  rw [gathers, textsGiven]
  simp only [List.mem_singleton]
  congr 1
  refine List.flatMap_congr fun act member => ?_
  have same : act.method = .raw := by simpa using (List.mem_filter.mp member).2
  rw [Act.listed, same]
  rfl

end SqlText
