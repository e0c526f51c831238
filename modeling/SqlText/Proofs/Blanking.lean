import SqlText.Proofs.Slots.Calls
import SqlText.Proofs.Trimming

/-!
# What blank texts do

A text of which nothing is left when it is trimmed adds nothing to a list and takes a single value
away. A command keeps its keyword, and a common table expression its query, without a name
(`Content.blanked`). No call with such texts does anything else (`Statement.content_of_blank`).
-/

set_option autoImplicit false

namespace SqlText

open Text

/-! ## Texts -/

section Texts

variable {texts : List Text} (blank : ∀ text ∈ texts, text.trim = [])
include blank

theorem newValue_of_blank : newValue texts = [] := by
  cases texts with
  | nil => rfl
  | cons first rest => exact blank first List.mem_cons_self

theorem givenTexts_of_blank : givenTexts texts = [] := by
  rw [givenTexts, List.filter_eq_nil_iff]
  intro text member
  obtain ⟨given, among, rfl⟩ := List.mem_map.mp member
  simpa using blank given among

theorem pushAll_of_blank (items : List Text) : pushAll items texts = items := by
  induction texts with
  | nil => rfl
  | cons first rest ih =>
      obtain ⟨here, later⟩ := List.forall_mem_cons.mp blank
      rw [pushAll, List.foldl_cons, pushUnique, here]
      exact ih later

theorem pushTo_of_blank (method : Method) (items : List Text) :
    method.pushTo items texts = items := by
  unfold Method.pushTo
  split
  iterate 4
    rw [pushJoins, givenTexts_of_blank blank]
    rfl
  · rw [pushRows, givenTexts_of_blank blank]
    rfl
  · exact pushAll_of_blank blank items

theorem pushConditions_of_blank (conditions : List Condition) (operator : Operator) :
    pushConditions conditions operator texts = conditions := by
  induction texts with
  | nil => rfl
  | cons first rest ih =>
      obtain ⟨here, later⟩ := List.forall_mem_cons.mp blank
      rw [pushConditions, List.foldl_cons, pushCondition, here]
      exact ih later

theorem pushAction_of_blank (actions : List (AlterAction × Text)) (action : AlterAction) :
    pushAction actions action texts = actions := by
  rw [pushAction, newValue_of_blank blank]
  exact if_pos (.inl rfl)

theorem newTarget_of_blank {τ : Type} (way : τ) : newTarget way texts = none :=
  if_pos (newValue_of_blank blank)

end Texts

/-! ## Calls -/

/-- A text of blank characters. -/
def Argument.IsBlank : Argument → Prop
  | .value (.text text) => text.AllBlank
  | _ => False

/-- The arguments that a method takes as fragments: all but the clause that raw text is attached to
and the query of a common table expression. -/
def Method.fragmentArguments (method : Method) (arguments : List Argument) : List Argument :=
  match method, arguments with
  | rawBefore, _ :: texts | rawAfter, _ :: texts => texts
  | withQuery, [name, _] => [name]
  | _, arguments => arguments

/-- The content after a call of a method with blank texts. -/
def Content.blanked (method : Method) (arguments : List Argument) : Content → Content
  | value _ => value []
  | created _ _ => created [] method.asksExistence
  | insertTarget _ => insertTarget Option.none
  | updateTarget _ => updateTarget Option.none
  | command _ => command (some [])
  | names given ifExists => names given (method.asksExistence || ifExists)
  | queries given =>
      queries (given ++ ((queryGiven? arguments).map fun named => ([], named.2)).toList)
  | entries given =>
      entries (given ++ (method.entryCommand?.map fun kind => .command { kind }).toList)
  | flag _ => flag true
  | content => content

theorem Argument.IsBlank.trim_fragment {argument : Argument} (blank : argument.IsBlank) :
    argument.fragment.trim = [] := by
  unfold IsBlank at blank
  split at blank
  · exact trim_eq_nil_iff.mpr blank
  · exact blank.elim

/-! ## Contents -/

section Contents

variable {arguments : List Argument} (blank : ∀ argument ∈ arguments, argument.IsBlank)
include blank

theorem trim_of_mem_fragments : ∀ text ∈ fragments arguments, text.trim = [] := by
  intro text member
  obtain ⟨argument, among, rfl⟩ := List.mem_map.mp member
  exact (blank argument among).trim_fragment

/-- Nothing is put inside a statement by blank texts. -/
theorem operand?_of_blank {argument : Argument} (member : argument ∈ arguments) :
    argument.operand? = none := by
  have here := blank argument member
  cases argument with
  | value plain => rfl
  | member | command | fixed | statement | other => exact here.elim

theorem queryGiven?_of_blank : queryGiven? arguments = none := by
  unfold queryGiven?
  split
  · rw [operand?_of_blank blank (List.mem_cons_of_mem _ List.mem_cons_self)]
    rfl
  · rfl

theorem operationGiven?_of_blank (method : Method) : operationGiven? method arguments = none := by
  unfold operationGiven?
  split
  · rw [operand?_of_blank blank List.mem_cons_self]
    cases method.operation? <;> rfl
  · rfl

theorem entryGiven?_of_blank (method : Method) :
    entryGiven? method arguments = method.entryCommand?.map fun kind => .command { kind } := by
  have inner : statementGiven? arguments = none := by
    unfold statementGiven?
    split
    · exact (blank _ List.mem_cons_self).elim
    · rfl
  rw [entryGiven?, newValue_of_blank (trim_of_mem_fragments blank), inner]
  cases method.entryCommand? <;> cases method.entryKind? <;> rfl

/-- Where blank texts are written, nothing is added and single values are cleared. -/
theorem Content.write_of_blank (method : Method) (content : Content)
    (holds : ∀ source, content ≠ .source source) :
    content.write method arguments = content.blanked method arguments := by
  have texts := trim_of_mem_fragments blank
  cases content with
  | none | flag => rfl
  | texts items => exact congrArg _ (pushTo_of_blank texts method items)
  | raw given =>
      have tail : ∀ text ∈ fragments arguments.tail, text.trim = [] :=
        trim_of_mem_fragments fun argument member => blank argument (List.mem_of_mem_tail member)
      rw [write, givenTexts_of_blank tail, List.append_nil]
      rfl
  | conditions given => exact congrArg _ (pushConditions_of_blank texts given _)
  | actions given =>
      rw [write]
      split
      · exact congrArg _ (pushAction_of_blank texts given _)
      · rfl
  | queries given =>
      rw [write, blanked, queryGiven?_of_blank blank]
      rfl
  | operations given =>
      rw [write, operationGiven?_of_blank blank, Option.toList_none, List.append_nil]
      rfl
  | entries given => rw [write, blanked, entryGiven?_of_blank blank]
  | names given ifExists =>
      rw [write, pushAll_of_blank texts]
      rfl
  | value | created | command =>
      rw [write, newValue_of_blank texts]
      rfl
  | insertTarget | updateTarget =>
      simp only [write, newTarget_of_blank texts, Option.bind_fun_none]
      rfl
  | source given => exact absurd rfl (holds given)

end Contents

namespace Statement

variable {statement changed : Statement} {method : Method} {arguments : List Argument}

/-- Only an INSERT has a source. -/
theorem eq_insert_of_source {slot : Slot} {source : Option Statement}
    (held : statement.content slot = .source source) :
    statement.kind = .insert ∧ slot = .clause .select := by
  cases slot with
  | clause place =>
      cases statement <;> cases place <;> first | exact ⟨rfl, rfl⟩ | cases held
  | command order => cases statement <;> cases order <;> cases held
  | _ => cases statement <;> cases held

/-- Only a statement can become the source of an INSERT. -/
theorem not_source_of_blank (ordinary : method.IsOrdinary)
    (blank : ∀ argument ∈ arguments, argument.IsBlank)
    (succeeds : statement.perform method arguments = .ok changed) {slot : Slot}
    (writes : statement.kind.bodySlot? method = some slot) (source : Option Statement) :
    statement.content slot ≠ .source source := by
  intro held
  obtain ⟨insert, rfl⟩ := eq_insert_of_source held
  obtain ⟨fits, applied⟩ := perform_eq_ok succeeds
  rw [insert] at writes fits
  obtain rfl := (Method.slot?_eq_select_iff method).mp writes
  match arguments, fits with
  | [argument], _ =>
      have here := blank argument List.mem_cons_self
      cases statement with
      | insert =>
          cases argument with
          | value => cases applied
          | member | command | fixed | statement | other => exact here.elim
      | _ => cases insert

/-- A call with blank texts, if it succeeds, clears what its method sets and leaves lists alone. -/
theorem content_of_blank (blank : ∀ argument ∈ method.fragmentArguments arguments, argument.IsBlank)
    (succeeds : statement.perform method arguments = .ok changed) (slot : Slot) :
    changed.content slot =
      if statement.kind.slot? method arguments = some slot then
        (statement.content slot).blanked method arguments
      else statement.content slot := by
  obtain ⟨fits, applied⟩ := perform_eq_ok succeeds
  rw [content_of_apply (.inl fits) applied slot]
  split
  · rename_i writes
    by_cases ordinary : method.IsOrdinary
    · have all : method.fragmentArguments arguments = arguments := by
        cases method <;> first | rfl | exact ordinary.elim
      rw [all] at blank
      rw [Kind.slot?_of_isOrdinary _ ordinary] at writes
      exact Content.write_of_blank blank method _
        (not_source_of_blank ordinary blank succeeds writes)
    · cases method with
      | raw =>
          cases writes
          exact Content.write_of_blank blank .raw (.texts statement.frame.raw)
            fun source same => by cases same
      | rawBefore | rawAfter =>
          obtain ⟨clause, -, rfl⟩ := Option.map_eq_some_iff.mp writes
          have tail : ∀ argument ∈ arguments.tail, argument.IsBlank := by
            cases arguments with
            | nil => exact List.forall_mem_nil _
            | cons place texts => exact blank
          rw [content, Content.write, givenTexts_of_blank (trim_of_mem_fragments tail),
            List.append_nil]
          rfl
      | withQuery =>
          have two : arguments.length = 2 := by
            simp only [Kind.arity_withQuery, Arity.fits, Option.all_some, Bool.and_eq_true,
              decide_eq_true_eq] at fits
            exact Nat.le_antisymm fits.2 fits.1
          obtain ⟨name, query, rfl⟩ := List.length_eq_two.mp two
          have unnamed := (blank name List.mem_cons_self).trim_fragment
          have same : queryGiven? [name, query] =
              (queryGiven? [name, query]).map fun named => ([], named.2) := by
            rw [queryGiven?, unnamed, Option.map_map]
            rfl
          have written (given : List (Text × Operand Statement)) :
              (Content.queries given).write .withQuery [name, query] =
                (Content.queries given).blanked .withQuery [name, query] := by
            rw [Content.write, Content.blanked, ← same]
          cases statement with
          | select | insert | update | delete =>
              cases writes
              exact written _
          | _ => cases writes <;> rfl
      | _ => exact absurd trivial ordinary
  · rfl

end Statement
end SqlText
