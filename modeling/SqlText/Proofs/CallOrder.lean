import SqlText.Proofs.Slots.Calls
import SqlText.Proofs.Reachable

/-!
# The order of calls

A rendering does not tell in which order calls on different slots were made, nor how often a single
value was replaced. Two runs of calls on one statement agree (`Kind.Agree`) when each list is given
the same calls in the same order, each single value is given by the same last call, and the same
marks are set. Statements that agreeing runs lead to are rendered alike in every layout
(`Statement.render_eq_of_agree`), whatever the statement was before.

A run leaves in each slot what its calls on that slot make of what was there
(`Statement.content_of_callAll`). So agreeing runs lead to the same content everywhere. That is not
the same statement yet: the raw text around two clauses is kept in the order in which the clauses
got their first one. A rendering looks the raw text up clause by clause and does not see this order
(`Statement.SameContent.render`).
-/

set_option autoImplicit false

namespace SqlText

/-! ## Runs of calls -/

/-- A call as it is written. An argument that is a statement is given as it is at that time. -/
structure Call where
  name : Text
  arguments : List Argument

/-- What a call asks for, by whichever of the method's names. -/
structure Act where
  method : Method
  arguments : List Argument

/-- What a call asks for, if there is a method of its name. -/
def Call.act? (call : Call) : Option Act :=
  (Method.ofName? call.name).map fun method => ⟨method, call.arguments⟩

/-- The statement after calls that all succeed, one after another. -/
def Statement.callAll (statement : Statement) : List Call → Except Failure Statement
  | [] => .ok statement
  | call :: rest => do (← statement.call call.name call.arguments).callAll rest

/-! ## Runs that agree -/

/-- What of the acts on a slot is left in it: all of them in their order, the last one, or that
there was one. -/
inductive Mode where
  | ordered
  | single
  | mark
deriving DecidableEq, Repr

/-- The mode of a slot that has the content. -/
def Content.mode : Content → Mode
  | texts _ | raw _ | conditions _ | actions _ | queries _ | operations _ | entries _
  | names _ _ => .ordered
  | value _ | created _ _ | insertTarget _ | updateTarget _ | source _ | command _ => .single
  | flag _ => .mark
  | none => .single

/-- What the calls ask for that write to a slot of a statement of the kind. -/
def Kind.actsOn (kind : Kind) (slot : Slot) (calls : List Call) : List Act :=
  (calls.filterMap Call.act?).filter fun act => kind.slot? act.method act.arguments = some slot

/-- Two runs of calls on a statement ask for the same in every slot, as far as something of it is
left. -/
structure Statement.Agree (start : Statement) (calls others : List Call) : Prop where
  ordered : ∀ slot, (start.content slot).mode = .ordered →
    start.kind.actsOn slot calls = start.kind.actsOn slot others
  single : ∀ slot, (start.content slot).mode = .single →
    (start.kind.actsOn slot calls).getLast? = (start.kind.actsOn slot others).getLast?
  marks : ∀ slot, (start.content slot).mode = .mark →
    (start.kind.actsOn slot calls = [] ↔ start.kind.actsOn slot others = [])

/-! ## What a run leaves in a slot -/

/-- The content after an act on its slot. -/
def Content.after (content : Content) (act : Act) : Content :=
  content.write act.method act.arguments

namespace Statement

theorem kind_and_dialect_of_call {statement changed : Statement} {name : Text}
    {arguments : List Argument} (succeeds : statement.call name arguments = .ok changed) :
    changed.kind = statement.kind ∧ changed.dialect = statement.dialect := by
  obtain ⟨method, found, performed⟩ := bind_eq_ok.mp succeeds
  exact kind_and_dialect_of_apply (perform_eq_ok performed).2

theorem kind_and_dialect_of_callAll {start final : Statement} {calls : List Call}
    (leads : start.callAll calls = .ok final) :
    final.kind = start.kind ∧ final.dialect = start.dialect := by
  induction calls generalizing start with
  | nil =>
      cases leads
      exact ⟨rfl, rfl⟩
  | cons call rest ih =>
      obtain ⟨changed, succeeds, later⟩ := bind_eq_ok.mp leads
      obtain ⟨kind, dialect⟩ := kind_and_dialect_of_call succeeds
      exact ⟨(ih later).1.trans kind, (ih later).2.trans dialect⟩

/-- What a run of successful calls returns comes about. -/
theorem Reachable.callAll {start final : Statement} {calls : List Call}
    (reachable : start.Reachable)
    (real : ∀ call ∈ calls, ∀ entry, .member entry ∈ call.arguments → entry ∈ Member.all)
    (inside : ∀ call ∈ calls, ∀ inner, .statement inner ∈ call.arguments → inner.Reachable)
    (leads : start.callAll calls = .ok final) : final.Reachable := by
  induction calls generalizing start with
  | nil =>
      cases leads
      exact reachable
  | cons call rest ih =>
      obtain ⟨changed, succeeds, later⟩ := bind_eq_ok.mp leads
      have next := reachable.call (real call List.mem_cons_self) (inside call List.mem_cons_self)
        succeeds
      exact ih next (fun other member => real other (List.mem_cons_of_mem _ member))
        (fun other member => inside other (List.mem_cons_of_mem _ member)) later

/-- A run leaves in a slot what its acts on the slot make of what was there. -/
theorem content_of_callAll {start final : Statement} {calls : List Call}
    (leads : start.callAll calls = .ok final) (slot : Slot) :
    final.content slot =
      (start.kind.actsOn slot calls).foldl Content.after (start.content slot) := by
  induction calls generalizing start with
  | nil =>
      cases leads
      rfl
  | cons call rest ih =>
      obtain ⟨changed, succeeds, later⟩ := bind_eq_ok.mp leads
      obtain ⟨method, found, performed⟩ := bind_eq_ok.mp succeeds
      have act : call.act? = some ⟨method, call.arguments⟩ := by
        rw [Call.act?, (method_eq_ok found).1]
        rfl
      obtain ⟨fits, applied⟩ := perform_eq_ok performed
      rw [ih later, (kind_and_dialect_of_call succeeds).1]
      rw [content_of_apply (.inl fits) applied slot]
      rw [Kind.actsOn, Kind.actsOn, List.filterMap_cons_some act]
      by_cases writes : start.kind.slot? method call.arguments = some slot
      · rw [if_pos writes, List.filter_cons_of_pos (by simpa using writes)]
        rfl
      · rw [if_neg writes, List.filter_cons_of_neg (by simpa using writes)]

end Statement

/-! ## What is left of a run -/

namespace Content

theorem mode_after (content : Content) (act : Act) : (content.after act).mode = content.mode := by
  cases content with
  | actions given =>
      rw [after, write]
      split <;> rfl
  | _ => rfl

/-- Of two acts on a single value or a mark the second is left. -/
theorem after_after {content : Content} (last : content.mode ≠ .ordered) (first second : Act) :
    (content.after first).after second = content.after second := by
  cases content <;> first | rfl | exact absurd rfl last

/-- An act on a mark sets it, whatever the act. -/
theorem after_eq_of_mark {content : Content} (mark : content.mode = .mark) (first second : Act) :
    content.after first = content.after second := by
  cases content <;> first | rfl | cases mark

/-- Of the acts on a single value or a mark the last one is left. -/
theorem foldl_after {content : Content} (last : content.mode ≠ .ordered) (acts : List Act) :
    acts.foldl after content = (acts.getLast?.map content.after).getD content := by
  induction acts generalizing content with
  | nil => rfl
  | cons act rest ih =>
      rw [List.foldl_cons, ih (by rwa [mode_after]), List.getLast?_cons]
      cases rest.getLast? with
      | none => rfl
      | some final => exact after_after last act final

/-- Acts on a mark leave the same if there are any on both sides or on none. -/
theorem foldl_after_mark {content : Content} (mark : content.mode = .mark) {acts others : List Act}
    (both : acts = [] ↔ others = []) :
    acts.foldl after content = others.foldl after content := by
  have last : content.mode ≠ .ordered := by simp [mark]
  rw [foldl_after last, foldl_after last]
  cases first : acts.getLast? with
  | none =>
      have empty := both.mp (List.getLast?_eq_none_iff.mp first)
      rw [empty]
      rfl
  | some act =>
      cases second : others.getLast? with
      | none =>
          rw [both.mpr (List.getLast?_eq_none_iff.mp second)] at first
          cases first
      | some other => exact after_eq_of_mark mark act other

end Content

/-- Runs that agree leave the same in every slot. -/
theorem Statement.Agree.content_eq {start first second : Statement} {calls others : List Call}
    (agree : start.Agree calls others) (leads : start.callAll calls = .ok first)
    (leadsToo : start.callAll others = .ok second) (slot : Slot) :
    first.content slot = second.content slot := by
  rw [content_of_callAll leads, content_of_callAll leadsToo]
  cases mode : (start.content slot).mode with
  | ordered => rw [agree.ordered slot mode]
  | single =>
      have last : (start.content slot).mode ≠ .ordered := by simp [mode]
      rw [Content.foldl_after last, Content.foldl_after last, agree.single slot mode]
  | mark => exact Content.foldl_after_mark mode (agree.marks slot mode)

/-! ## Statements with the same content -/

attribute [ext] SelectBody InsertBody UpdateBody DeleteBody ValuesBody CreateTableBody DropBody
  CreateIndexBody AlterTableBody TransactionBody

section Bodies

open Content

theorem SelectBody.eq_of_content {body other : SelectBody}
    (same : ∀ slot, body.content slot = other.content slot) : body = other :=
  SelectBody.ext (texts.inj (same (.clause .select))) (texts.inj (same (.clause .fromClause)))
    (texts.inj (same (.clause .join))) (conditions.inj (same (.clause .whereClause)))
    (texts.inj (same (.clause .groupBy))) (conditions.inj (same (.clause .having)))
    (texts.inj (same (.clause .window))) (texts.inj (same (.clause .orderBy)))
    (value.inj (same (.clause .limit))) (value.inj (same (.clause .offset)))

theorem InsertBody.eq_of_content {body other : InsertBody}
    (same : ∀ slot, body.content slot = other.content slot) : body = other :=
  InsertBody.ext (insertTarget.inj (same (.clause .insertInto)))
    (value.inj (same (.clause .overriding))) (texts.inj (same (.clause .values)))
    (flag.inj (same (.clause .defaultValues))) (value.inj (same (.clause .onConflict)))
    (texts.inj (same (.clause .returning)))

theorem UpdateBody.eq_of_content {body other : UpdateBody}
    (same : ∀ slot, body.content slot = other.content slot) : body = other :=
  UpdateBody.ext (updateTarget.inj (same (.clause .update))) (texts.inj (same (.clause .set)))
    (texts.inj (same (.clause .fromClause))) (texts.inj (same (.clause .join)))
    (conditions.inj (same (.clause .whereClause))) (texts.inj (same (.clause .returning)))

theorem DeleteBody.eq_of_content {body other : DeleteBody}
    (same : ∀ slot, body.content slot = other.content slot) : body = other :=
  DeleteBody.ext (value.inj (same (.clause .deleteFrom))) (texts.inj (same (.clause .partition)))
    (conditions.inj (same (.clause .whereClause))) (texts.inj (same (.clause .orderBy)))
    (value.inj (same (.clause .limit))) (texts.inj (same (.clause .returning)))

theorem ValuesBody.eq_of_content {body other : ValuesBody}
    (same : ∀ slot, body.content slot = other.content slot) : body = other :=
  ValuesBody.ext (texts.inj (same (.clause .values)))

theorem CreateTableBody.eq_of_content {body other : CreateTableBody}
    (same : ∀ slot, body.content slot = other.content slot) : body = other :=
  have named := created.inj (same (.clause .createTable))
  CreateTableBody.ext named.1 named.2 (texts.inj (same (.clause .column)))
    (value.inj (same (.clause .primaryKey))) (texts.inj (same (.clause .constraint)))
    (texts.inj (same (.clause .foreignKey)))

theorem DropBody.eq_of_content {body other : DropBody}
    (same : ∀ slot, body.content slot = other.content slot) : body = other :=
  have named := names.inj (same (.clause .dropTable))
  DropBody.ext named.1 named.2

theorem CreateIndexBody.eq_of_content {body other : CreateIndexBody}
    (same : ∀ slot, body.content slot = other.content slot) : body = other :=
  have named := created.inj (same (.clause .createIndex))
  CreateIndexBody.ext named.1 named.2 (flag.inj (same .unique)) (flag.inj (same .concurrently))
    (value.inj (same (.clause .onClause))) (flag.inj (same .only))
    (value.inj (same (.clause .usingClause))) (texts.inj (same (.clause .column)))
    (texts.inj (same (.clause .includeClause))) (conditions.inj (same (.clause .whereClause)))

theorem AlterTableBody.eq_of_content {body other : AlterTableBody}
    (same : ∀ slot, body.content slot = other.content slot) : body = other :=
  AlterTableBody.ext (value.inj (same (.clause .alterTable)))
    (value.inj (same (.clause .renameTo))) (actions.inj (same (.clause .actions)))

theorem TransactionBody.eq_of_content {body other : TransactionBody}
    (same : ∀ slot, body.content slot = other.content slot) : body = other :=
  TransactionBody.ext (command.inj (same (.command .begin)))
    (command.inj (same (.command .startTransaction)))
    (command.inj (same (.command .setTransaction))) (command.inj (same (.command .commit)))
    (command.inj (same (.command .finish)))

end Bodies

/-- A frame that a statement cannot tell from another: raw text is looked up by its clause only. -/
structure Frame.Alike (frame other : Frame) : Prop where
  dialect : other.dialect = frame.dialect
  raw : other.raw = frame.raw
  before : other.before.get = frame.before.get
  after : other.after.get = frame.after.get

namespace Frame.Alike

variable {frame other : Frame} (alike : frame.Alike other)
include alike

theorem enables : other.enables = frame.enables := by
  funext kind clause
  rw [Frame.enables, Frame.enables, alike.dialect]

theorem render (layout : Layout) (kind : Kind) (segments : List Segment) :
    other.render layout kind segments = frame.render layout kind segments := by
  have each : Segment.render layout kind other = Segment.render layout kind frame := by
    funext segment
    cases segment with
    | clause place part =>
        simp only [Segment.render, alike.enables, alike.before, alike.after]
    | free part => rfl
  rw [Frame.render, Frame.render, alike.raw, each]

theorem combination : other.combination = frame.combination := by
  rw [Frame.combination, Frame.combination, alike.before, alike.after]

theorem createTable_outline (body : CreateTableBody) : body.outline other = body.outline frame := by
  unfold CreateTableBody.outline CreateTableBody.groups
  rw [alike.before, alike.after]

theorem drop_outline (body : DropBody) : body.outline other = body.outline frame := by
  funext clause word
  simp only [DropBody.outline, alike.dialect]

theorem transaction_outline (layout : Layout) (body : TransactionBody) :
    body.outline layout other = body.outline layout frame := by
  have segments : Frame.commandSegments layout other = Frame.commandSegments layout frame := by
    funext gate kind argument
    cases argument with
    | none => rfl
    | some text => simp only [Frame.commandSegments, alike.dialect]
  funext entries
  simp only [TransactionBody.outline, segments]

end Frame.Alike

namespace Statement

section Frames

variable {statement : Statement} {frame : Frame} (alike : statement.frame.Alike frame)
include alike

/-- A statement is rendered alike in two frames that are alike. -/
theorem render_withFrame (layout : Layout) :
    (statement.withFrame frame).render layout = statement.render layout := by
  rw [render, render]
  congr 1
  cases statement with
  | select old body queries operations =>
      have same : old.Alike frame := alike
      simp only [withFrame, written, SelectBody.render, same.render, same.combination,
        same.dialect]
  | createTable old body =>
      have same : old.Alike frame := alike
      simp only [withFrame, written, same.render, same.createTable_outline]
  | dropTable old body | dropIndex old body =>
      have same : old.Alike frame := alike
      simp only [withFrame, written, same.render, same.drop_outline]
  | transaction old body entries =>
      have same : old.Alike frame := alike
      simp only [withFrame, written, same.render, same.transaction_outline]
  | insert | update | delete | values | createIndex | alterTable => exact alike.render ..

/-- The rendering takes the same course in two frames that are alike. -/
theorem course_withFrame (given : LayoutParts) :
    (statement.withFrame frame).course given = statement.course given := by
  have finish : (statement.withFrame frame).finish given = statement.finish given := by
    rw [finish, finish, record, record, kind_withFrame, render_withFrame alike]
    rw [Statement.dialect, Statement.dialect, frame_withFrame, alike.dialect]
  cases statement with
  | select old body queries operations =>
      have same : old.Alike frame := alike
      simp only [withFrame, course, same.dialect] at finish ⊢
      rw [finish]
  | createTable old body =>
      have same : old.Alike frame := alike
      simp only [withFrame, course, same.createTable_outline] at finish ⊢
      rw [finish]
  | dropTable old body | dropIndex old body =>
      have same : old.Alike frame := alike
      simp only [withFrame, course, same.drop_outline] at finish ⊢
      rw [finish]
  | insert | update | delete | values | createIndex | alterTable | transaction =>
      simp only [withFrame, course] at finish ⊢
      rw [finish]

end Frames

theorem bodyContent_eq_content (statement : Statement) {slot : Slot} (body : slot.IsOfBody) :
    statement.bodyContent slot = statement.content slot := by
  cases slot with
  | raw | before | after => exact body.elim
  | _ => rfl

theorem bodyContent_eq_none (statement : Statement) {slot : Slot} (raw : ¬ slot.IsOfBody) :
    statement.bodyContent slot = .none := by
  cases slot with
  | raw | before | after => cases statement <;> rfl
  | _ => exact absurd trivial raw

/-- What is beside a body in a slot where the body has nothing says nothing about the body. -/
theorem eq_of_aside {aside : Slot} {first second : Content} {content other : Slot → Content}
    (bare : content aside = other aside)
    (same : ∀ slot, (if slot = aside then first else content slot) =
      if slot = aside then second else other slot) (slot : Slot) : content slot = other slot := by
  by_cases here : slot = aside
  · rw [here, bare]
  · simpa only [if_neg here] using same slot

/-- Two statements of one kind and dialect with the same content in every slot. -/
structure SameContent (statement other : Statement) : Prop where
  kind : other.kind = statement.kind
  dialect : other.dialect = statement.dialect
  content : ∀ slot, other.content slot = statement.content slot

namespace SameContent

variable {statement other : Statement} (same : SameContent statement other)
include same

theorem frame_alike : statement.frame.Alike other.frame where
  dialect := same.dialect
  raw := Content.texts.inj (same.content .raw)
  before := funext fun clause => Content.raw.inj (same.content (.before clause))
  after := funext fun clause => Content.raw.inj (same.content (.after clause))

theorem bodyContent (slot : Slot) : other.bodyContent slot = statement.bodyContent slot := by
  by_cases body : slot.IsOfBody
  · rw [bodyContent_eq_content _ body, bodyContent_eq_content _ body, same.content]
  · rw [bodyContent_eq_none _ body, bodyContent_eq_none _ body]

/-- Statements with the same content differ in nothing but what their frames are made of. -/
theorem eq_withFrame : other = statement.withFrame other.frame := by
  have content := same.bodyContent
  have kind := same.kind
  clear same
  cases statement with
  | select old body queries operations =>
      cases other with
      | select frame otherBody otherQueries otherOperations =>
          have sameQueries : otherQueries = queries :=
            Content.queries.inj (content (.clause .withClause))
          have sameOperations : otherOperations = operations :=
            Content.operations.inj (content (.clause .union))
          have sameBody : otherBody = body :=
            SelectBody.eq_of_content (eq_of_aside rfl (eq_of_aside rfl content))
          rw [sameQueries, sameOperations, sameBody]
          rfl
      | _ => cases kind
  | insert old body queries source =>
      cases other with
      | insert frame otherBody otherQueries otherSource =>
          have sameQueries : otherQueries = queries :=
            Content.queries.inj (content (.clause .withClause))
          have sameSource : otherSource = source :=
            Content.source.inj (content (.clause .select))
          have sameBody : otherBody = body :=
            InsertBody.eq_of_content (eq_of_aside rfl (eq_of_aside rfl content))
          rw [sameQueries, sameSource, sameBody]
          rfl
      | _ => cases kind
  | update old body queries =>
      cases other with
      | update frame otherBody otherQueries =>
          have sameQueries : otherQueries = queries :=
            Content.queries.inj (content (.clause .withClause))
          have sameBody : otherBody = body :=
            UpdateBody.eq_of_content (eq_of_aside rfl content)
          rw [sameQueries, sameBody]
          rfl
      | _ => cases kind
  | delete old body queries =>
      cases other with
      | delete frame otherBody otherQueries =>
          have sameQueries : otherQueries = queries :=
            Content.queries.inj (content (.clause .withClause))
          have sameBody : otherBody = body :=
            DeleteBody.eq_of_content (eq_of_aside rfl content)
          rw [sameQueries, sameBody]
          rfl
      | _ => cases kind
  | values old body =>
      cases other with
      | values frame otherBody => exact congrArg _ (ValuesBody.eq_of_content content)
      | _ => cases kind
  | createTable old body =>
      cases other with
      | createTable frame otherBody => exact congrArg _ (CreateTableBody.eq_of_content content)
      | _ => cases kind
  | dropTable old body =>
      cases other with
      | dropTable frame otherBody => exact congrArg _ (DropBody.eq_of_content content)
      | _ => cases kind
  | dropIndex old body =>
      cases other with
      | dropIndex frame otherBody => exact congrArg _ (DropBody.eq_of_content content)
      | _ => cases kind
  | createIndex old body =>
      cases other with
      | createIndex frame otherBody => exact congrArg _ (CreateIndexBody.eq_of_content content)
      | _ => cases kind
  | alterTable old body =>
      cases other with
      | alterTable frame otherBody => exact congrArg _ (AlterTableBody.eq_of_content content)
      | _ => cases kind
  | transaction old body entries =>
      cases other with
      | transaction frame otherBody otherEntries =>
          have sameEntries : otherEntries = entries := Content.entries.inj (content .entries)
          have sameBody : otherBody = body :=
            TransactionBody.eq_of_content (eq_of_aside rfl content)
          rw [sameEntries, sameBody]
          rfl
      | _ => cases kind

/-- Statements with the same content are rendered alike, and in the same course. -/
theorem render (layout : Layout) : other.render layout = statement.render layout := by
  rw [same.eq_withFrame]
  exact render_withFrame same.frame_alike layout

theorem course (given : LayoutParts) : other.course given = statement.course given := by
  rw [same.eq_withFrame]
  exact course_withFrame same.frame_alike given

end SameContent

/-! ## Agreeing runs -/

/-- Runs of calls on one statement that agree lead to statements that are rendered alike in every
layout, and in the same course. -/
theorem render_eq_of_agree {start first second : Statement} {calls others : List Call}
    (agree : start.Agree calls others) (leads : start.callAll calls = .ok first)
    (leadsToo : start.callAll others = .ok second) :
    (∀ layout, first.render layout = second.render layout) ∧
      ∀ given, first.course given = second.course given := by
  obtain ⟨kind, dialect⟩ := kind_and_dialect_of_callAll leads
  obtain ⟨kindToo, dialectToo⟩ := kind_and_dialect_of_callAll leadsToo
  have same : SameContent second first :=
    ⟨kind.trans kindToo.symm, dialect.trans dialectToo.symm,
      agree.content_eq leads leadsToo⟩
  exact ⟨same.render, same.course⟩

/-- Calls on the columns of a table, the limit of which is given twice. -/
def hesitant : List Call :=
  [⟨"raw_before".toList, [.value (.text "from".toList), .value (.text "x".toList)]⟩,
   ⟨"raw_before".toList, [.value (.text "where".toList), .value (.text "y".toList)]⟩,
   ⟨"limit".toList, [.value (.text "1".toList)]⟩,
   ⟨"where".toList, [.value (.text "c".toList)]⟩,
   ⟨"limit".toList, [.value (.text "2".toList)]⟩]

/-- The same with the limit given once, and with the raw text the other way around. -/
def settled : List Call :=
  [⟨"limit".toList, [.value (.text "2".toList)]⟩,
   ⟨"raw_before".toList, [.value (.text "where".toList), .value (.text "y".toList)]⟩,
   ⟨"where_and".toList, [.value (.text "c".toList)]⟩,
   ⟨"raw_before".toList, [.value (.text "from".toList), .value (.text "x".toList)]⟩]

theorem agree_twoColumns : twoColumns.Agree hesitant settled := by
  have first : hesitant.filterMap Call.act? =
      [⟨.rawBefore, [.value (.text "from".toList), .value (.text "x".toList)]⟩,
       ⟨.rawBefore, [.value (.text "where".toList), .value (.text "y".toList)]⟩,
       ⟨.limit, [.value (.text "1".toList)]⟩,
       ⟨.whereAnd, [.value (.text "c".toList)]⟩,
       ⟨.limit, [.value (.text "2".toList)]⟩] := rfl
  have second : settled.filterMap Call.act? =
      [⟨.limit, [.value (.text "2".toList)]⟩,
       ⟨.rawBefore, [.value (.text "where".toList), .value (.text "y".toList)]⟩,
       ⟨.whereAnd, [.value (.text "c".toList)]⟩,
       ⟨.rawBefore, [.value (.text "from".toList), .value (.text "x".toList)]⟩] := rfl
  have ordered : ∀ slot, slot ≠ .clause .limit →
      Kind.select.actsOn slot hesitant = Kind.select.actsOn slot settled := by
    intro slot other
    rw [Kind.actsOn, Kind.actsOn, first, second]
    cases slot with
    | before clause => cases clause <;> rfl
    | clause place => cases place <;> first | rfl | exact absurd rfl other
    | _ => rfl
  have single (slot : Slot) (mode : (twoColumns.content slot).mode ≠ .single) :
      slot ≠ .clause .limit := by
    rintro rfl
    exact mode rfl
  refine ⟨fun slot mode => ?_, fun slot _ => ?_, fun slot mode => ?_⟩
  · exact ordered slot (single slot (by simp [mode]))
  · by_cases limit : slot = .clause .limit
    · rw [limit]
      rfl
    · exact congrArg List.getLast? (ordered slot limit)
  · have same := ordered slot (single slot (by simp [mode]))
    exact iff_of_eq (congrArg (· = []) same)

theorem render_settled :
    ∃ first second, twoColumns.callAll hesitant = .ok first ∧
      twoColumns.callAll settled = .ok second ∧
      (∀ layout, first.render layout = second.render layout) ∧
        ∀ given, first.course given = second.course given :=
  ⟨select
      { dialect := .generic
        before := [(.fromClause, ["x".toList]), (.whereClause, ["y".toList])] }
      { columns := ["a".toList, "b".toList]
        conditions := [(.and, "c".toList)]
        limit := "2".toList } [] [],
    select
      { dialect := .generic
        before := [(.whereClause, ["y".toList]), (.fromClause, ["x".toList])] }
      { columns := ["a".toList, "b".toList]
        conditions := [(.and, "c".toList)]
        limit := "2".toList } [] [],
    rfl, rfl, render_eq_of_agree agree_twoColumns rfl rfl⟩

end Statement
end SqlText
