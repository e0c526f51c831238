import SqlText.Proofs.Slots.Basic
import SqlText.Statement.Create

/-!
# A call writes to one slot

A call that succeeds leaves every slot as it was but the one that it writes to
(`Statement.content_of_apply`). What it leaves there depends on what was there and on what the
call was given. A statement has nothing besides its slots and its dialect, which no call changes.
-/

set_option autoImplicit false

namespace SqlText

/-! ## Texts for a body -/

section Writing

variable {method : Method} {arguments : List Argument} {old new : Slot → Content}
variable {own? : Option Slot}

theorem content_of_written {own : Slot} (writes : own? = some own)
    (here : new own = (old own).write method arguments)
    (elsewhere : ∀ slot, slot ≠ own → new slot = old slot) (slot : Slot) :
    new slot = if own? = some slot then (old slot).write method arguments else old slot := by
  subst writes
  by_cases same : slot = own
  · rw [same, if_pos rfl, here]
  · rw [if_neg (by simpa using Ne.symm same), elsewhere slot same]

/-- Where there is nothing, nothing can be written. -/
theorem content_of_bare (bare : ∀ own ∈ own?, old own = .none) (slot : Slot) :
    old slot = if own? = some slot then (old slot).write method arguments else old slot := by
  split
  · rw [bare slot (by assumption)]
    rfl
  · rfl

end Writing

section Bodies

variable (method : Method) (arguments : List Argument) (slot : Slot)

theorem SelectBody.content_edit (body : SelectBody) :
    (body.edit method (fragments arguments)).content slot =
      if method.slot? = some slot then (body.content slot).write method arguments
      else body.content slot := by
  cases method with
  | select | fromTables | crossJoin | innerJoin | leftJoin | rightJoin | whereAnd | whereOr
  | groupBy | havingAnd | havingOr | window | orderBy | limit | offset =>
      refine content_of_written rfl rfl ?_ slot
      intro slot other
      cases slot with
      | clause place => cases place <;> first | rfl | exact absurd rfl other
      | _ => rfl
  | _ => exact content_of_bare (by intro own member; cases member <;> rfl) slot

theorem InsertBody.content_edit (body : InsertBody) :
    (body.edit method (fragments arguments)).content slot =
      if method.slot? = some slot then (body.content slot).write method arguments
      else body.content slot := by
  cases method with
  | insertInto | insertOr | replaceInto | overriding | values | row | defaultValues | onConflict
  | returning =>
      refine content_of_written rfl rfl ?_ slot
      intro slot other
      cases slot with
      | clause place => cases place <;> first | rfl | exact absurd rfl other
      | _ => rfl
  | _ => exact content_of_bare (by intro own member; cases member <;> rfl) slot

theorem UpdateBody.content_edit (body : UpdateBody) :
    (body.edit method (fragments arguments)).content slot =
      if method.slot? = some slot then (body.content slot).write method arguments
      else body.content slot := by
  cases method with
  | update | updateOr | set | fromTables | crossJoin | innerJoin | leftJoin | rightJoin | whereAnd
  | whereOr | returning =>
      refine content_of_written rfl rfl ?_ slot
      intro slot other
      cases slot with
      | clause place => cases place <;> first | rfl | exact absurd rfl other
      | _ => rfl
  | _ => exact content_of_bare (by intro own member; cases member <;> rfl) slot

theorem DeleteBody.content_edit (body : DeleteBody) :
    (body.edit method (fragments arguments)).content slot =
      if method.slot? = some slot then (body.content slot).write method arguments
      else body.content slot := by
  cases method with
  | deleteFrom | partition | whereAnd | whereOr | orderBy | limit | returning =>
      refine content_of_written rfl rfl ?_ slot
      intro slot other
      cases slot with
      | clause place => cases place <;> first | rfl | exact absurd rfl other
      | _ => rfl
  | _ => exact content_of_bare (by intro own member; cases member <;> rfl) slot

theorem ValuesBody.content_edit (body : ValuesBody) :
    (body.edit method (fragments arguments)).content slot =
      if method.slot? = some slot then (body.content slot).write method arguments
      else body.content slot := by
  cases method with
  | values | row =>
      refine content_of_written rfl rfl ?_ slot
      intro slot other
      cases slot with
      | clause place => cases place <;> first | rfl | exact absurd rfl other
      | _ => rfl
  | _ => exact content_of_bare (by intro own member; cases member <;> rfl) slot

theorem CreateTableBody.content_edit (body : CreateTableBody) :
    (body.edit method (fragments arguments)).content slot =
      if method.slot? = some slot then (body.content slot).write method arguments
      else body.content slot := by
  cases method with
  | createTable | createTableIfNotExists | column | primaryKey | constraint | foreignKey =>
      refine content_of_written rfl rfl ?_ slot
      intro slot other
      cases slot with
      | clause place => cases place <;> first | rfl | exact absurd rfl other
      | _ => rfl
  | _ => exact content_of_bare (by intro own member; cases member <;> rfl) slot

theorem DropBody.content_edit (body : DropBody) :
    (body.edit method (fragments arguments)).content slot =
      if method.slot? = some slot then (body.content slot).write method arguments
      else body.content slot := by
  cases method with
  | dropTable | dropIndex | dropTableIfExists | dropIndexIfExists =>
      refine content_of_written rfl rfl ?_ slot
      intro slot other
      cases slot with
      | clause place => cases place <;> first | rfl | exact absurd rfl other
      | _ => rfl
  | _ => exact content_of_bare (by intro own member; cases member <;> rfl) slot

theorem CreateIndexBody.content_edit (body : CreateIndexBody) :
    (body.edit method (fragments arguments)).content slot =
      if method.slot? = some slot then (body.content slot).write method arguments
      else body.content slot := by
  cases method with
  | createIndex | createIndexIfNotExists | unique | concurrently | onTable | only | usingMethod
  | column | includeColumns | whereAnd | whereOr =>
      refine content_of_written rfl rfl ?_ slot
      intro slot other
      cases slot with
      | clause place => cases place <;> first | rfl | exact absurd rfl other
      | unique | concurrently | only => first | rfl | exact absurd rfl other
      | _ => rfl
  | _ => exact content_of_bare (by intro own member; cases member <;> rfl) slot

theorem AlterTableBody.content_edit (body : AlterTableBody) :
    (body.edit method (fragments arguments)).content slot =
      if method.slot? = some slot then (body.content slot).write method arguments
      else body.content slot := by
  cases method with
  | alterTable | renameTo | add | drop | alter | rename =>
      refine content_of_written rfl rfl ?_ slot
      intro slot other
      cases slot with
      | clause place => cases place <;> first | rfl | exact absurd rfl other
      | _ => rfl
  | _ => exact content_of_bare (by intro own member; cases member <;> rfl) slot

theorem TransactionBody.content_edit (body : TransactionBody) :
    (body.edit method (fragments arguments)).content slot =
      if method.scriptSlot? = some slot then (body.content slot).write method arguments
      else body.content slot := by
  cases method with
  | begin | startTransaction | setTransaction | commit | finish =>
      refine content_of_written rfl rfl ?_ slot
      intro slot other
      cases slot with
      | command kind => cases kind <;> first | rfl | exact absurd rfl other
      | _ => rfl
  | _ => exact content_of_bare (by intro own member; cases member <;> rfl) slot

end Bodies

/-! ## Methods and their slots -/

namespace Method

/-- A method that adds neither raw text nor a common table expression. -/
def IsOrdinary : Method → Prop
  | raw | rawBefore | rawAfter | withQuery => False
  | _ => True

theorem slot?_ne_of_isOrdinary {method : Method} (ordinary : method.IsOrdinary) :
    method.slot? ≠ some (.clause .withClause) := by
  cases method with
  | withQuery => exact ordinary.elim
  | _ => decide

theorem slot?_eq_union_iff (method : Method) :
    method.slot? = some (.clause .union) ↔ method.operation?.isSome := by
  cases method <;> decide

theorem slot?_eq_select_iff (method : Method) :
    method.slot? = some (.clause .select) ↔ method = .select := by
  cases method <;> decide

theorem scriptSlot?_of_entryGiven? {method : Method} {arguments : List Argument}
    {entry : Operand Statement} (given : entryGiven? method arguments = some entry) :
    method.scriptSlot? = some .entries := by
  cases method <;> first | rfl | cases given

end Method

namespace Kind

theorem slot?_of_isOrdinary (kind : Kind) {method : Method} (ordinary : method.IsOrdinary)
    (arguments : List Argument) : kind.slot? method arguments = kind.bodySlot? method := by
  cases method with
  | raw | rawBefore | rawAfter => exact ordinary.elim
  | _ => rfl

theorem isOfBody_of_bodySlot? {kind : Kind} {method : Method} {slot : Slot}
    (writes : kind.bodySlot? method = some slot) : slot.IsOfBody := by
  rw [bodySlot?] at writes
  split at writes
  · cases method <;> cases writes <;> trivial
  · cases method <;> cases writes <;> trivial

variable (kind : Kind)

theorem arity_withQuery : kind.arity .withQuery = ⟨2, some 2⟩ := by cases kind <;> rfl

theorem bodySlot?_print : kind.bodySlot? .print = none := by cases kind <;> rfl

theorem bodySlot?_debug : kind.bodySlot? .debug = none := by cases kind <;> rfl

end Kind

/-! ## Raw text -/

namespace RawText

variable {κ : Type} [DecidableEq κ]

theorem get_cons (key other : κ) (texts : List Text) (raw : RawText κ) :
    RawText.get ((key, texts) :: raw) other = if other = key then texts else raw.get other := by
  rw [get, List.lookup_cons]
  by_cases same : other = key
  · simp [same]
  · simp [beq_false_of_ne same, get, same]

theorem get_add (raw : RawText κ) (key other : κ) (text : Text) :
    (raw.add key text).get other =
      if other = key then raw.get other ++ [text] else raw.get other := by
  induction raw with
  | nil =>
      rw [add, get_cons]
      rfl
  | cons head rest ih =>
      obtain ⟨first, texts⟩ := head
      rw [add]
      by_cases here : first = key
      · rw [if_pos here, get_cons, get_cons]
        subst here
        split <;> rfl
      · rw [if_neg here, get_cons, get_cons, ih]
        by_cases same : other = first
        · rw [if_pos same, if_pos same, if_neg (same ▸ here)]
        · rw [if_neg same, if_neg same]

/-- What is added at a key follows what is there, and changes nothing at another key. -/
theorem get_pushAll (raw : RawText κ) (key other : κ) (texts : List Text) :
    (raw.pushAll key texts).get other =
      if other = key then raw.get other ++ givenTexts texts else raw.get other := by
  induction texts generalizing raw with
  | nil => simp [pushAll, givenTexts]
  | cons first rest ih =>
      rw [pushAll, List.foldl_cons, ← pushAll, ih, push]
      by_cases empty : first.trim = []
      · simp [empty, givenTexts]
      · by_cases same : other = key
        · simp [empty, same, get_add, givenTexts]
        · simp [empty, same, get_add]

end RawText

namespace Statement

section Frames

variable (statement : Statement) (frame : Frame)

theorem frame_edit (method : Method) (texts : List Text) :
    (statement.edit method texts).frame = statement.frame := by
  cases statement with
  | transaction =>
      rw [edit]
      split <;> rfl
  | _ => rfl

theorem kind_edit (method : Method) (texts : List Text) :
    (statement.edit method texts).kind = statement.kind := by
  cases statement with
  | transaction =>
      rw [edit]
      split <;> rfl
  | _ => rfl

theorem frame_addQuery (name : Text) (query : Operand Statement) :
    (statement.addQuery name query).frame = statement.frame := by
  cases statement <;> rfl

theorem kind_addQuery (name : Text) (query : Operand Statement) :
    (statement.addQuery name query).kind = statement.kind := by
  cases statement <;> rfl

@[simp]
theorem bodyContent_withFrame :
    (statement.withFrame frame).bodyContent = statement.bodyContent := by
  cases statement <;> rfl

variable (arguments : List Argument) (slot : Slot)

theorem content_addRaw :
    (statement.addRaw (fragments arguments)).content slot =
      if some Slot.raw = some slot then (statement.content slot).write .raw arguments
      else statement.content slot := by
  refine content_of_written rfl ?_ ?_ slot
  · simp [addRaw, content, Content.write, Method.pushTo]
  · intro slot other
    cases slot with
    | raw => exact absurd rfl other
    | _ => simp [addRaw, content]

theorem content_addBefore (clause : Clause) (place : Argument) :
    (statement.addBefore clause (fragments arguments)).content slot =
      if some (Slot.before clause) = some slot then
        (statement.content slot).write .rawBefore (place :: arguments)
      else statement.content slot := by
  refine content_of_written rfl ?_ ?_ slot
  · simp [addBefore, content, Content.write, RawText.get_pushAll]
  · intro slot other
    cases slot with
    | before place =>
        have different : place ≠ clause := fun same => other (same ▸ rfl)
        simp [addBefore, content, RawText.get_pushAll, different]
    | _ => simp [addBefore, content]

theorem content_addAfter (clause : Clause) (place : Argument) :
    (statement.addAfter clause (fragments arguments)).content slot =
      if some (Slot.after clause) = some slot then
        (statement.content slot).write .rawAfter (place :: arguments)
      else statement.content slot := by
  refine content_of_written rfl ?_ ?_ slot
  · simp [addAfter, content, Content.write, RawText.get_pushAll]
  · intro slot other
    cases slot with
    | after place =>
        have different : place ≠ clause := fun same => other (same ▸ rfl)
        simp [addAfter, content, RawText.get_pushAll, different]
    | _ => simp [addAfter, content]

theorem place?_of_namedClause {argument : Argument} {clause : Clause}
    (looked : statement.namedClause argument = .ok clause) :
    statement.kind.place? argument = some clause := by
  cases argument with
  | member entry =>
      cases entry with
      | clause kind other =>
          simp only [namedClause] at looked
          split at looked
          · cases looked
            exact if_pos (by assumption)
          · cases looked
      | feature | command | operator => cases looked
  | value | command | fixed | statement | other =>
      simp only [namedClause] at looked
      split at looked
      · cases looked
        assumption
      · cases looked

end Frames

end Statement

/-! ## What is put inside a statement -/

namespace Statement

section Inside

variable {method : Method} (frame : Frame) (queries : List (Text × Operand Statement))
variable (slot : Slot)

theorem bodyContent_operation (body : SelectBody)
    (operations : List (SetOperation × Operand Statement)) {operation : SetOperation}
    {argument : Argument} {operand : Operand Statement}
    (adds : method.operation? = some operation) (embeddable : argument.operand? = some operand) :
    (select frame body queries (operations ++ [(operation, operand)])).bodyContent slot =
      if Kind.select.bodySlot? method = some slot then
        ((select frame body queries operations).bodyContent slot).write method [argument]
      else (select frame body queries operations).bodyContent slot := by
  have writes : Kind.select.bodySlot? method = some (.clause .union) :=
    (Method.slot?_eq_union_iff method).mpr (by rw [adds]; rfl)
  refine content_of_written writes ?_ ?_ slot
  · simp [bodyContent, Content.write, operationGiven?, adds, embeddable]
  · intro slot other
    simp [bodyContent, other]

theorem bodyContent_source (body : InsertBody) (old : Option Statement) (inner : Statement) :
    (insert frame body queries (some inner)).bodyContent slot =
      if Kind.insert.bodySlot? .select = some slot then
        ((insert frame body queries old).bodyContent slot).write .select [.statement inner]
      else (insert frame body queries old).bodyContent slot := by
  have writes : Kind.insert.bodySlot? .select = some (.clause .select) := rfl
  refine content_of_written writes ?_ ?_ slot
  · simp [bodyContent, Content.write, statementGiven?]
  · intro slot other
    simp [bodyContent, other]

theorem bodyContent_entry (body : TransactionBody) (old : List (Operand Statement))
    {arguments : List Argument} {entry : Operand Statement}
    (given : entryGiven? method arguments = some entry) :
    (transaction frame body (old ++ [entry])).bodyContent slot =
      if Kind.transaction.bodySlot? method = some slot then
        ((transaction frame body old).bodyContent slot).write method arguments
      else (transaction frame body old).bodyContent slot := by
  have writes : Kind.transaction.bodySlot? method = some .entries :=
    Method.scriptSlot?_of_entryGiven? given
  refine content_of_written writes ?_ ?_ slot
  · simp [bodyContent, Content.write, given]
  · intro slot other
    simp [bodyContent, other]

end Inside

/-! ## Calls -/

/-- Nothing is put inside the statement by the call, be it for its method or for its arguments. -/
def IsGivenTexts (statement : Statement) (method : Method) (arguments : List Argument) : Prop :=
  match statement with
  | select .. => operationGiven? method arguments = none
  | insert .. => method ≠ .select
  | transaction .. => method.entryCommand? = none → entryGiven? method arguments = none
  | _ => True

section Calls

variable {statement changed : Statement} {method : Method} {arguments : List Argument}

theorem bodyContent_edit (ordinary : method.IsOrdinary) (statement : Statement)
    (texts : statement.IsGivenTexts method arguments) (slot : Slot) :
    (statement.edit method (fragments arguments)).bodyContent slot =
      if statement.kind.bodySlot? method = some slot then
        (statement.bodyContent slot).write method arguments
      else statement.bodyContent slot := by
  have noQuery : method.slot? ≠ some (.clause .withClause) :=
    Method.slot?_ne_of_isOrdinary ordinary
  cases statement with
  | select frame body queries operations =>
      by_cases first : slot = .clause .withClause
      · subst first
        exact (if_neg noQuery).symm
      · by_cases second : slot = .clause .union
        · subst second
          have quiet : operationGiven? method arguments = none := texts
          simp [bodyContent, edit, Content.write, quiet]
        · simp only [bodyContent, edit, if_neg first, if_neg second]
          exact body.content_edit method arguments slot
  | insert frame body queries source =>
      by_cases first : slot = .clause .withClause
      · subst first
        exact (if_neg noQuery).symm
      · by_cases second : slot = .clause .select
        · subst second
          have otherSlot : method.slot? ≠ some (.clause .select) :=
            fun same => texts ((Method.slot?_eq_select_iff method).mp same)
          exact (if_neg otherSlot).symm
        · simp only [bodyContent, edit, if_neg first, if_neg second]
          exact body.content_edit method arguments slot
  | update frame body queries | delete frame body queries =>
      by_cases first : slot = .clause .withClause
      · subst first
        exact (if_neg noQuery).symm
      · simp only [bodyContent, edit, if_neg first]
        exact body.content_edit method arguments slot
  | values frame body | createTable frame body | dropTable frame body | dropIndex frame body
  | createIndex frame body | alterTable frame body =>
      exact body.content_edit method arguments slot
  | transaction frame body entries =>
      rw [edit]
      cases adds : method.entryCommand? with
      | some kind =>
          exact bodyContent_entry frame slot body entries (by rw [entryGiven?, adds])
      | none =>
          by_cases first : slot = .entries
          · subst first
            have quiet : entryGiven? method arguments = none := texts adds
            simp [bodyContent, Content.write, quiet]
          · simp only [bodyContent, if_neg first]
            exact body.content_edit method arguments slot

theorem bodyContent_addQuery (statement : Statement) {name query : Argument}
    {operand : Operand Statement} (embeddable : query.operand? = some operand)
    (slot : Slot) :
    (statement.addQuery name.fragment.trim operand).bodyContent slot =
      if statement.kind.bodySlot? .withQuery = some slot then
        (statement.bodyContent slot).write .withQuery [name, query]
      else statement.bodyContent slot := by
  have given : queryGiven? [name, query] = some (name.fragment.trim, operand) := by
    rw [queryGiven?, embeddable]
    rfl
  cases statement with
  | select | insert | update | delete =>
      refine content_of_written (show _ = some (.clause .withClause) from rfl) ?_ ?_ slot
      · simp [bodyContent, addQuery, Content.write, given]
      · intro slot other
        simp [bodyContent, addQuery, other]
  | values | createTable | dropTable | dropIndex | createIndex | alterTable | transaction =>
      exact content_of_bare (by intro own member; cases member <;> rfl) slot

/-- What is written to the body alone is written to the statement. -/
theorem content_of_bodyContent (statement : Statement) {own? : Option Slot}
    (own : ∀ slot, own? = some slot → slot.IsOfBody) (frame : changed.frame = statement.frame)
    (body : ∀ slot, changed.bodyContent slot =
      if own? = some slot then (statement.bodyContent slot).write method arguments
      else statement.bodyContent slot)
    (slot : Slot) :
    changed.content slot =
      if own? = some slot then (statement.content slot).write method arguments
      else statement.content slot := by
  cases slot with
  | raw => rw [if_neg fun same => own .raw same, content, content, frame]
  | before clause => rw [if_neg fun same => own (.before clause) same, content, content, frame]
  | after clause => rw [if_neg fun same => own (.after clause) same, content, content, frame]
  | _ => exact body _

/-- Texts are written to the slot of the method that they are given to. -/
theorem content_edit (ordinary : method.IsOrdinary) (statement : Statement)
    (texts : statement.IsGivenTexts method arguments) (slot : Slot) :
    (statement.edit method (fragments arguments)).content slot =
      if statement.kind.bodySlot? method = some slot then
        (statement.content slot).write method arguments
      else statement.content slot :=
  content_of_bodyContent statement (fun _ => Kind.isOfBody_of_bodySlot?)
    (frame_edit statement method _) (bodyContent_edit ordinary statement texts) slot

/-- A call with no argument or several gives texts only, where one argument could be put inside. -/
theorem isGivenTexts_of_several (fits : (statement.kind.arity method).fits arguments.length = true ∨
      statement.takesEach method = true)
    (noOperand : ∀ frame body queries operations argument,
      statement = select frame body queries operations → arguments ≠ [argument])
    (noSource : ∀ frame body queries source argument,
      statement = insert frame body queries source → arguments ≠ [argument])
    (noEntry : ∀ frame body entries argument,
      statement = transaction frame body entries → arguments ≠ [argument]) :
    statement.IsGivenTexts method arguments := by
  cases statement with
  | select =>
      rw [IsGivenTexts, operationGiven?.eq_def]
      split
      · exact (noOperand _ _ _ _ _ rfl rfl).elim
      · rfl
  | insert =>
      rintro rfl
      match arguments, fits.resolve_right nofun with
      | [argument], _ => exact noSource _ _ _ _ _ rfl rfl
  | transaction =>
      intro notEntry
      rw [entryGiven?, notEntry]
      split
      · rename_i adds
        cases adds
      · rw [statementGiven?.eq_def]
        split
        · exact (noEntry _ _ _ _ rfl rfl).elim
        · rfl
      · rfl
  | _ => trivial

/-- A call of an ordinary method writes to the slot of the method and leaves the others. -/
theorem content_of_ordinary (ordinary : method.IsOrdinary)
    (fits : (statement.kind.arity method).fits arguments.length = true ∨
      statement.takesEach method = true)
    (succeeds : statement.apply method arguments = .ok changed) (slot : Slot) :
    changed.content slot =
      if statement.kind.bodySlot? method = some slot then
        (statement.content slot).write method arguments
      else statement.content slot := by
  have own (other : Slot) (writes : statement.kind.bodySlot? method = some other) :
      other.IsOfBody := Kind.isOfBody_of_bodySlot? writes
  unfold apply at succeeds
  split at succeeds
  iterate 3 exact ordinary.elim
  · cases succeeds
  · split at succeeds
    · cases succeeds
    · cases succeeds
      rw [Kind.bodySlot?_print, if_neg nofun]
  · split at succeeds
    · cases succeeds
    · cases succeeds
      rw [Kind.bodySlot?_debug, if_neg nofun]
  · exact ordinary.elim
  split at succeeds
  · split at succeeds
    · rename_i adds
      obtain ⟨operand, found, result⟩ := bind_eq_ok.mp succeeds
      cases result
      refine content_of_bodyContent (select ..) own (by rfl) ?_ slot
      intro other
      exact bodyContent_operation _ _ other _ _ adds (Argument.operand_eq_ok found)
    · rename_i adds
      cases succeeds
      exact content_edit ordinary _ (by simp [IsGivenTexts, operationGiven?, adds]) slot
  · split at succeeds
    · rename_i isSelect
      obtain ⟨inner, found, result⟩ := bind_eq_ok.mp succeeds
      obtain ⟨rfl, -⟩ := Argument.statementOf_eq_ok found
      cases result
      subst isSelect
      refine content_of_bodyContent (insert ..) own (by rfl) ?_ slot
      intro other
      exact bodyContent_source _ _ other _ _ inner
    · rename_i other
      cases succeeds
      exact content_edit ordinary (insert ..) other slot
  · split at succeeds
    · rename_i adds
      obtain ⟨inner, found, result⟩ := bind_eq_ok.mp succeeds
      obtain ⟨rfl, -⟩ := Argument.statementOf_eq_ok found
      cases result
      have given : entryGiven? method [.statement inner] = some (.statement inner) := by
        cases method <;> first | rfl | cases adds
      refine content_of_bodyContent (transaction ..) own (by rfl) ?_ slot
      intro other
      exact bodyContent_entry _ other _ _ given
    · rename_i adds
      cases succeeds
      refine content_edit ordinary (transaction ..) (fun notEntry => ?_) slot
      rw [entryGiven?, notEntry, adds]
  · rename_i noOperand noSource noEntry
    cases succeeds
    have texts := isGivenTexts_of_several fits noOperand noSource noEntry
    exact content_edit ordinary statement texts slot

/-- A call that succeeds writes to one slot, if to any, and leaves the others. -/
theorem content_of_apply (fits : (statement.kind.arity method).fits arguments.length = true ∨
      statement.takesEach method = true)
    (succeeds : statement.apply method arguments = .ok changed) (slot : Slot) :
    changed.content slot =
      if statement.kind.slot? method arguments = some slot then
        (statement.content slot).write method arguments
      else statement.content slot := by
  by_cases ordinary : method.IsOrdinary
  · rw [Kind.slot?_of_isOrdinary _ ordinary]
    exact content_of_ordinary ordinary fits succeeds slot
  cases method with
  | raw =>
      cases succeeds
      exact content_addRaw statement arguments slot
  | rawBefore =>
      cases arguments with
      | nil =>
          cases statement <;> cases succeeds <;> rfl
      | cons place texts =>
          obtain ⟨clause, found, result⟩ := bind_eq_ok.mp succeeds
          cases result
          have names := place?_of_namedClause statement (clause_eq_ok found).1
          rw [Kind.slot?, List.head?_cons, Option.bind_some, names]
          exact content_addBefore statement texts slot clause place
  | rawAfter =>
      cases arguments with
      | nil => cases statement <;> cases succeeds <;> rfl
      | cons place texts =>
          obtain ⟨clause, found, result⟩ := bind_eq_ok.mp succeeds
          cases result
          have names := place?_of_namedClause statement (clause_eq_ok found).1
          rw [Kind.slot?, List.head?_cons, Option.bind_some, names]
          exact content_addAfter statement texts slot clause place
  | withQuery =>
      rw [takesEach, Kind.arity_withQuery] at fits
      match arguments, fits.resolve_right nofun with
      | [name, query], _ =>
          obtain ⟨operand, found, result⟩ := bind_eq_ok.mp succeeds
          cases result
          exact content_of_bodyContent statement (fun slot => Kind.isOfBody_of_bodySlot?)
            (frame_addQuery statement _ _)
            (bodyContent_addQuery statement (Argument.operand_eq_ok found)) slot
  | _ => exact absurd trivial ordinary

/-- A call changes neither the kind of a statement nor its dialect. -/
theorem kind_and_dialect_of_apply (succeeds : statement.apply method arguments = .ok changed) :
    changed.kind = statement.kind ∧ changed.dialect = statement.dialect := by
  cases change_of_apply succeeds with
  | same => exact ⟨rfl, rfl⟩
  | raw | before | after => simp [addRaw, addBefore, addAfter, dialect]
  | query => exact ⟨kind_addQuery .., congrArg Frame.dialect (frame_addQuery ..)⟩
  | operation | source | entry => exact ⟨rfl, rfl⟩
  | edit => exact ⟨kind_edit .., congrArg Frame.dialect (frame_edit ..)⟩

end Calls

/-! ## New statements -/

theorem kind_empty (kind : Kind) (dialect : Dialect) : (empty kind dialect).kind = kind := by
  cases kind <;> rfl

section Opening

variable {kind : Kind} {method : Method}

theorem isOrdinary_of_opening (opens : kind.opening = some method) : method.IsOrdinary := by
  cases kind <;> cases opens <;> trivial

/-- Every dialect has the method that the texts of a new statement are given to. -/
theorem access_of_opening (opens : kind.opening = some method) : kind.access method = .always := by
  cases kind <;> cases opens <;> rfl

/-- What a new statement is given are texts. -/
theorem isGivenTexts_of_opening (opens : kind.opening = some method) (dialect : Dialect)
    (arguments : List Argument) : (empty kind dialect).IsGivenTexts method arguments := by
  cases kind with
  | select =>
      cases opens
      match arguments with
      | [] | [_] | _ :: _ :: _ => rfl
  | insert =>
      cases opens
      exact nofun
  | transaction => cases opens
  | _ => trivial

end Opening

end Statement
end SqlText
