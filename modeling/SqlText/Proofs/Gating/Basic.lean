import SqlText.Proofs.Slots.Calls
import SqlText.Proofs.Reachable

/-!
# What a dialect lacks is not held

A dialect takes effect twice: a method is not there when the dialect lacks its feature, and a clause
is not written when the dialect lacks the feature of the clause. The two are told by tables that do
not refer to each other (`Kind.access`, `Kind.gate`). They agree (`Kind.access_of_writes`), so a
statement that has only been called under one dialect holds nothing for a clause that the dialect
lacks (`Statement.ReachedUnder.fitsDialect`), neither as content nor as raw text. The same goes for
the commands of a transaction script.
-/

set_option autoImplicit false

namespace SqlText

/-! ## What is vacant -/

/-- The content has nothing of the clause in it. -/
def Content.IsVacant (clause : Clause) : Content → Prop
  | none => True
  | texts items => items = []
  | raw given => given = []
  | conditions given => given = []
  | actions given => given = []
  | queries given => given = []
  | operations given => ∀ entry ∈ given, entry.1.clause ≠ clause
  | entries given => given = []
  | names given _ => given = []
  | value text => text = []
  | created name _ => name = []
  | insertTarget target => ∀ named ∈ target, named.1.clause ≠ clause
  | updateTarget target => ∀ named ∈ target, named.1.clause ≠ clause
  | source given => given = Option.none
  | command argument => argument = Option.none
  | flag isSet => isSet = false

/-- The feature that a command of a transaction script depends on. -/
def CommandKind.gate : CommandKind → Option Feature
  | begin | finish => some .beginEnd
  | startTransaction => some .startTransaction
  | setTransaction => some .setTransaction
  | _ => none

namespace Statement

/-- The statement holds nothing for what the dialect lacks. -/
structure FitsDialect (statement : Statement) (dialect : Dialect) : Prop where
  vacant : ∀ clause, dialect.offers (statement.kind.gate clause) = false →
    (statement.content clause.slot).IsVacant clause
  before : ∀ clause, dialect.offers (statement.kind.gate clause) = false →
    statement.frame.before.get clause = []
  after : ∀ clause, dialect.offers (statement.kind.gate clause) = false →
    statement.frame.after.get clause = []
  commands : ∀ command, dialect.offers command.gate = false →
    ∀ argument, statement.content (.command command) ≠ .command (some argument)

/-- The statements that come about under one dialect: they are made under it, and called, with
whatever arguments and successful or not. -/
inductive ReachedUnder (dialect : Dialect) : Statement → Prop where
  | created {request : Request} {registry : Registry} {statement : Statement}
      (made : request.create registry = .ok statement) (under : statement.dialect = dialect) :
      ReachedUnder dialect statement
  | called {statement : Statement} (name : Text) {method : Method} (arguments : List Argument)
      (reached : ReachedUnder dialect statement) (found : statement.method name = .ok method) :
      ReachedUnder dialect (statement.leftBy method arguments)

end Statement

/-! ## The tables agree -/

theorem Clause.exists_slot (clause : Clause) : ∃ place, clause.slot = .clause place := by
  cases clause <;> exact ⟨_, rfl⟩

namespace Kind

/-- A method that writes where a gated clause lies is gated by the same feature, unless it names a
target in the one way that every dialect has. -/
theorem access_of_writes {kind : Kind} {method : Method} {clause : Clause} {feature : Feature}
    (gated : kind.gate clause = some feature) (writes : method.slot? = some clause.slot)
    (present : kind.access method ≠ .absent) :
    kind.access method = .gated feature ∨ method = .insertInto ∧ clause ≠ .insertInto ∨
      method = .update ∧ clause ≠ .update := by
  unfold gate at gated
  split at gated
  all_goals cases gated
  -- Every gated clause of every kind is left to be compared with every method.
  all_goals
    cases method <;> first | (cases writes; done) | exact .inl rfl | exact absurd rfl present | simp

theorem bodySlot?_of_slot? {kind : Kind} {method : Method} {arguments : List Argument} {slot : Slot}
    (writes : kind.slot? method arguments = some slot) (body : slot.IsOfBody) :
    kind.bodySlot? method = some slot := by
  unfold slot? at writes
  split at writes
  · cases writes
    exact body.elim
  · obtain ⟨clause, -, rfl⟩ := Option.map_eq_some_iff.mp writes
    exact body.elim
  · obtain ⟨clause, -, rfl⟩ := Option.map_eq_some_iff.mp writes
    exact body.elim
  · exact writes

theorem place?_of_slot? {kind : Kind} {method : Method} {arguments : List Argument}
    {clause : Clause} (writes : kind.slot? method arguments = some (.before clause) ∨
      kind.slot? method arguments = some (.after clause)) :
    (method = .rawBefore ∨ method = .rawAfter) ∧
      ∃ place texts, arguments = place :: texts ∧ kind.place? place = some clause := by
  have raw : method = .rawBefore ∨ method = .rawAfter := by
    cases method with
    | rawBefore => exact .inl rfl
    | rawAfter => exact .inr rfl
    | raw => rcases writes with same | same <;> cases same
    | _ => exact (writes.elim isOfBody_of_bodySlot? isOfBody_of_bodySlot?).elim
  refine ⟨raw, ?_⟩
  cases arguments with
  | nil => rcases raw with rfl | rfl <;> rcases writes with same | same <;> cases same
  | cons place texts =>
      refine ⟨place, texts, rfl, ?_⟩
      rcases raw with rfl | rfl <;> simpa [slot?] using writes

theorem slot?_of_bodySlot? {kind : Kind} {method : Method} {place : Clause}
    (writes : kind.bodySlot? method = some (.clause place)) :
    method.slot? = some (.clause place) := by
  rw [bodySlot?] at writes
  split at writes
  · cases method <;> cases writes
  · exact writes

theorem scriptSlot?_of_bodySlot? {kind : Kind} {method : Method} {command : CommandKind}
    (writes : kind.bodySlot? method = some (.command command)) :
    kind = .transaction ∧ method.scriptSlot? = some (.command command) := by
  rw [bodySlot?] at writes
  split at writes
  · exact ⟨by assumption, writes⟩
  · cases method <;> cases writes

theorem access_of_scriptSlot? {method : Method} {command : CommandKind} {feature : Feature}
    (gated : command.gate = some feature) (writes : method.scriptSlot? = some (.command command)) :
    transaction.access method = .gated feature := by
  cases method <;> cases writes <;> cases gated <;> rfl

end Kind

/-! ## What a call keeps vacant -/

theorem fst_of_mem_newTarget {τ : Type} {way : τ} {texts : List Text} {named : τ × Text}
    (member : named ∈ newTarget way texts) : named.1 = way := by
  rw [newTarget] at member
  split at member
  · cases member
  · cases member
    rfl

namespace Statement

variable {statement changed : Statement} {dialect : Dialect} {method : Method}
variable {arguments : List Argument}

theorem isVacant_of_insertInto (statement : Statement) (arguments : List Argument)
    {clause : Clause} (other : clause ≠ .insertInto) :
    ((statement.content (.clause .insertInto)).write .insertInto arguments).IsVacant clause := by
  cases statement with
  | insert =>
      intro named member
      rw [fst_of_mem_newTarget member]
      exact Ne.symm other
  | _ => trivial

theorem isVacant_of_update (statement : Statement) (arguments : List Argument)
    {clause : Clause} (other : clause ≠ .update) :
    ((statement.content (.clause .update)).write .update arguments).IsVacant clause := by
  cases statement with
  | update =>
      intro named member
      rw [fst_of_mem_newTarget member]
      exact Ne.symm other
  | _ => trivial

/-- A method that the dialect offers writes nothing for a clause that the dialect lacks. -/
theorem isVacant_write (offers : Offers statement.kind dialect method) {clause : Clause}
    (lacks : dialect.offers (statement.kind.gate clause) = false)
    (writes : statement.kind.slot? method arguments = some clause.slot) :
    ((statement.content clause.slot).write method arguments).IsVacant clause := by
  obtain ⟨place, shape⟩ := clause.exists_slot
  have own : method.slot? = some clause.slot := by
    rw [shape] at writes ⊢
    exact Kind.slot?_of_bodySlot? (Kind.bodySlot?_of_slot? writes trivial)
  cases gated : statement.kind.gate clause with
  | none =>
      rw [gated] at lacks
      cases lacks
  | some feature =>
      rw [gated] at lacks
      rcases Kind.access_of_writes gated own offers.present with
        locked | ⟨rfl, other⟩ | ⟨rfl, other⟩
      · exact absurd (offers.offered feature locked) (by simpa [Dialect.offers] using lacks)
      · rw [← Option.some.inj own]
        exact isVacant_of_insertInto statement arguments other
      · rw [← Option.some.inj own]
        exact isVacant_of_update statement arguments other

/-- What a method of the dialect writes is nothing that the dialect lacks. -/
theorem FitsDialect.write (fits : statement.FitsDialect dialect)
    (offers : Offers statement.kind dialect method) (kind : changed.kind = statement.kind)
    (places : ∀ clause, statement.kind.slot? method arguments = some (.before clause) ∨
      statement.kind.slot? method arguments = some (.after clause) →
        dialect.offers (statement.kind.gate clause) = true)
    (written : ∀ slot, changed.content slot =
      if statement.kind.slot? method arguments = some slot then
        (statement.content slot).write method arguments
      else statement.content slot) : changed.FitsDialect dialect where
  vacant := by
    intro clause lacks
    rw [kind] at lacks
    rw [written]
    split
    · exact isVacant_write offers lacks (by assumption)
    · exact fits.vacant clause lacks
  before := by
    intro clause lacks
    rw [kind] at lacks
    have kept := written (.before clause)
    rw [if_neg fun writes => absurd (places clause (.inl writes)) (by simp [lacks])] at kept
    exact (Content.raw.inj kept).trans (fits.before clause lacks)
  after := by
    intro clause lacks
    rw [kind] at lacks
    have kept := written (.after clause)
    rw [if_neg fun writes => absurd (places clause (.inr writes)) (by simp [lacks])] at kept
    exact (Content.raw.inj kept).trans (fits.after clause lacks)
  commands := by
    intro command lacks argument
    rw [written]
    split
    · rename_i writes
      obtain ⟨script, own⟩ := Kind.scriptSlot?_of_bodySlot? (Kind.bodySlot?_of_slot? writes trivial)
      cases gated : command.gate with
      | none =>
          rw [gated] at lacks
          cases lacks
      | some feature =>
          rw [gated] at lacks
          have locked := Kind.access_of_scriptSlot? gated own
          rw [← script] at locked
          exact absurd (offers.offered feature locked) (by simpa [Dialect.offers] using lacks)
    · exact fits.commands command lacks argument

/-- Raw text is put at a clause only if the dialect has it. -/
theorem offers_of_apply (succeeds : statement.apply method arguments = .ok changed)
    {clause : Clause} (writes : statement.kind.slot? method arguments = some (.before clause) ∨
      statement.kind.slot? method arguments = some (.after clause)) :
    statement.dialect.offers (statement.kind.gate clause) = true := by
  obtain ⟨raw, place, texts, rfl, named⟩ := Kind.place?_of_slot? writes
  have found : ∃ other, statement.clause place = .ok other := by
    rcases raw with rfl | rfl
    · obtain ⟨other, looked, -⟩ := bind_eq_ok.mp succeeds
      exact ⟨other, looked⟩
    · obtain ⟨other, looked, -⟩ := bind_eq_ok.mp succeeds
      exact ⟨other, looked⟩
  obtain ⟨other, looked⟩ := found
  obtain ⟨name, offered⟩ := clause_eq_ok looked
  rw [place?_of_namedClause _ name] at named
  cases named
  exact offered

/-- A call keeps a statement to its dialect, even if it fails. -/
theorem FitsDialect.leftBy (fits : statement.FitsDialect statement.dialect) {name : Text}
    (found : statement.method name = .ok method) (arguments : List Argument) :
    (statement.leftBy method arguments).FitsDialect statement.dialect := by
  rcases leftBy_cases statement method arguments with same | ⟨given, -, number, applied⟩
  · rw [same]
    exact fits
  · obtain ⟨-, present, offered⟩ := method_eq_ok found
    exact fits.write ⟨present, offered⟩ (kind_and_dialect_of_apply applied).1
      (fun _ => offers_of_apply applied) (content_of_apply number applied)

theorem dialect_leftBy (statement : Statement) (method : Method) (arguments : List Argument) :
    (statement.leftBy method arguments).dialect = statement.dialect := by
  rcases leftBy_cases statement method arguments with same | ⟨given, -, -, applied⟩
  · rw [same]
  · exact (kind_and_dialect_of_apply applied).2

/-! ## New statements -/

/-- A statement with empty clauses holds nothing at all. -/
theorem fitsDialect_empty (kind : Kind) (dialect : Dialect) :
    (empty kind dialect).FitsDialect dialect where
  vacant := by
    intro clause _
    cases kind <;> cases clause <;> first | trivial | rfl | exact nofun
  before := by
    intro clause _
    cases kind <;> rfl
  after := by
    intro clause _
    cases kind <;> rfl
  commands := by
    intro command _ argument same
    cases kind <;> cases command <;> cases same

theorem fitsDialect_of_create {request : Request} {registry : Registry}
    (made : request.create registry = .ok statement) : statement.FitsDialect statement.dialect := by
  obtain ⟨found, -, -, shape⟩ := eq_statement_of_create made
  have fresh := fitsDialect_empty request.kind found.dialect
  have under : (empty request.kind found.dialect).dialect = found.dialect := by
    cases request.kind <;> rfl
  rw [shape, Request.statement]
  split
  · rename_i method text texts opens _
    have ordinary := isOrdinary_of_opening opens
    have always := access_of_opening opens
    have givenTexts := isGivenTexts_of_opening opens
    have edited : ((empty request.kind found.dialect).edit method
        (fragments (text :: texts))).dialect = found.dialect :=
      (congrArg Frame.dialect (frame_edit ..)).trans under
    have offers : Offers (empty request.kind found.dialect).kind found.dialect method := by
      constructor <;> simp [kind_empty, always]
    have written (slot : Slot) := content_edit ordinary _
      (givenTexts found.dialect (text :: texts)) slot
    rw [← Kind.slot?_of_isOrdinary _ ordinary (text :: texts)] at written
    rw [edited]
    refine fresh.write offers (kind_edit ..) (fun clause writes => ?_) written
    rcases (Kind.place?_of_slot? writes).1 with rfl | rfl
    · exact ordinary.elim
    · exact ordinary.elim
  · rw [under]
    exact fresh

theorem ReachedUnder.fitsDialect (reached : ReachedUnder dialect statement) :
    statement.dialect = dialect ∧ statement.FitsDialect dialect := by
  induction reached with
  | created made under =>
      subst under
      exact ⟨rfl, fitsDialect_of_create made⟩
  | @called statement name method arguments _ found ih =>
      obtain ⟨under, fits⟩ := ih
      subst under
      exact ⟨dialect_leftBy .., fits.leftBy found arguments⟩

end Statement

end SqlText
