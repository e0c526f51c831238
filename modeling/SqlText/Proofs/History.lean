import SqlText.Proofs.CallOrder
import SqlText.Proofs.Joining
import SqlText.Proofs.Stored

/-!
# What lists gather

A list of a statement holds what has been given to it, each text once and at its first place. It is
the list of all texts given so far with the later occurrences dropped, and stays so with each text
that is given (`append_unless`), with each call (`Content.Gathers.after`), and so with each run of
calls (`Content.Gathers.foldl_after`).

What is given to a list by a call depends on the method: a join is given with the keyword of its
kind, a row in the explicit notation, anything else as it is (`Method.listed`). Conditions are given
with the operator that joins them, so the same condition can be there under both operators.

Calls may fail. What a call gives is what it has taken when it ends (`Statement.taken?`): all of its
arguments if it succeeds, and those before the first one without a text if it takes them one after
another. A new statement is made by one more call of this sort, if it is given any texts
(`Request.acts`), and so every list of it gathers what it has been given since
(`Statement.gathers_of_create`).
-/

set_option autoImplicit false

namespace SqlText

open Text

/-! ## First occurrences -/

section FirstOccurrences

variable {α : Type} [BEq α] [LawfulBEq α]

/-- An item at the end of a list is one of the first occurrences if it is not in the list. -/
theorem eraseDups_concat (items : List α) (item : α) :
    (items ++ [item]).eraseDups =
      if item ∈ items then items.eraseDups else items.eraseDups ++ [item] := by
  rw [List.eraseDups_append, List.cons_removeAll]
  by_cases known : item ∈ items
  · rw [if_pos known, if_neg (by simpa using known)]
    simp
  · rw [if_neg known, if_pos (by simpa using known), List.nil_removeAll, List.eraseDups_cons]
    rfl

/-- Adding an item, unless it is to be left out or there already, keeps the first occurrences. -/
theorem append_unless (items : List α) (item : α) (isLeftOut : Prop) [Decidable isLeftOut] :
    (if isLeftOut ∨ item ∈ items.eraseDups then items.eraseDups
      else items.eraseDups ++ [item]) =
      (items ++ if isLeftOut then [] else [item]).eraseDups := by
  by_cases out : isLeftOut
  · rw [if_pos (.inl out), if_pos out, List.append_nil]
  · rw [if_neg out, eraseDups_concat]
    by_cases known : item ∈ items
    · rw [if_pos (.inr (List.mem_eraseDups.mpr known)), if_pos known]
    · rw [if_neg (not_or.mpr ⟨out, fun member => known (List.mem_eraseDups.mp member)⟩),
        if_neg known]

end FirstOccurrences

/-! ## Texts that are given -/

theorem givenTexts_cons (first : Text) (rest : List Text) :
    givenTexts (first :: rest) = first.trim.unlessEmpty ++ givenTexts rest := by
  rw [givenTexts, List.map_cons, List.filter_cons, unlessEmpty]
  by_cases empty : first.trim = []
  · simp [empty, givenTexts]
  · simp [empty, givenTexts]

theorem givenTexts_append (first second : List Text) :
    givenTexts (first ++ second) = givenTexts first ++ givenTexts second := by
  rw [givenTexts, List.map_append, List.filter_append, ← givenTexts, ← givenTexts]

theorem isFragment_of_mem_givenTexts {texts : List Text} :
    ∀ text ∈ givenTexts texts, text.IsFragment := by
  intro text member
  obtain ⟨trimmed, visible⟩ := List.mem_filter.mp member
  obtain ⟨given, -, rfl⟩ := List.mem_map.mp trimmed
  exact isFragment_trim (by simpa using visible)

/-- Fragments are given as they are. -/
theorem givenTexts_eq_self {texts : List Text} (fragments : ∀ text ∈ texts, text.IsFragment) :
    givenTexts texts = texts := by
  have trimmed : texts.map Text.trim = texts :=
    (List.map_congr_left fun text member => (fragments text member).trim_eq).trans (List.map_id _)
  rw [givenTexts, trimmed]
  exact filter_ne_nil fun text member => (fragments text member).ne_nil

theorem isFragment_word_append {word : Text} (opens : Opens word) {text : Text}
    (closes : Closes text) : (word ++ text).IsFragment :=
  ⟨opens.append _, closes.append _⟩

theorem closes_parenthesized {text : Text} (closes : Closes text) : Closes text.parenthesized := by
  rw [parenthesized]
  split
  · exact closes
  · exact ⟨_, ')', rfl, by decide⟩

/-- What a method makes of the texts that it is given for a list. -/
def Method.listed (method : Method) (texts : List Text) : List Text :=
  match method with
  | crossJoin => (givenTexts texts).map fun text => "CROSS JOIN".toList ++ ' ' :: text
  | innerJoin => (givenTexts texts).map fun text => "INNER JOIN".toList ++ ' ' :: text
  | leftJoin => (givenTexts texts).map fun text => "LEFT JOIN".toList ++ ' ' :: text
  | rightJoin => (givenTexts texts).map fun text => "RIGHT JOIN".toList ++ ' ' :: text
  | row => (givenTexts texts).map fun text => "ROW".toList ++ text.parenthesized
  | _ => givenTexts texts

/-- What is given to a list is made of fragments. -/
theorem Method.isFragment_of_mem_listed (method : Method) {texts : List Text} :
    ∀ text ∈ method.listed texts, text.IsFragment := by
  have joined (word : Text) (opens : Opens word) : ∀ text ∈ (givenTexts texts).map
      fun text => word ++ ' ' :: text, text.IsFragment := by
    intro text member
    obtain ⟨given, among, rfl⟩ := List.mem_map.mp member
    exact isFragment_word_append opens
      ((isFragment_of_mem_givenTexts given among).closes.append [' '])
  unfold listed
  split
  · exact joined _ ⟨'C', _, rfl, by decide⟩
  · exact joined _ ⟨'I', _, rfl, by decide⟩
  · exact joined _ ⟨'L', _, rfl, by decide⟩
  · exact joined _ ⟨'R', _, rfl, by decide⟩
  · intro text member
    obtain ⟨given, among, rfl⟩ := List.mem_map.mp member
    exact isFragment_word_append ⟨'R', _, rfl, by decide⟩
      (closes_parenthesized (isFragment_of_mem_givenTexts given among).closes)
  · exact isFragment_of_mem_givenTexts

/-! ## What a call makes of a list -/

theorem pushUnique_eraseDups (items : List Text) (fragment : Text) :
    pushUnique items.eraseDups fragment = (items ++ fragment.trim.unlessEmpty).eraseDups :=
  append_unless items fragment.trim (fragment.trim = [])

theorem pushAll_eraseDups (items texts : List Text) :
    pushAll items.eraseDups texts = (items ++ givenTexts texts).eraseDups := by
  induction texts generalizing items with
  | nil => rw [pushAll, List.foldl_nil, givenTexts, List.map_nil, List.filter_nil,
      List.append_nil]
  | cons first rest ih =>
      rw [pushAll, List.foldl_cons, ← pushAll, pushUnique_eraseDups, ih, givenTexts_cons,
        List.append_assoc]

theorem pushTo_eraseDups (method : Method) (items texts : List Text) :
    method.pushTo items.eraseDups texts = (items ++ method.listed texts).eraseDups := by
  have same : givenTexts (method.listed texts) = method.listed texts :=
    givenTexts_eq_self method.isFragment_of_mem_listed
  have pushed := pushAll_eraseDups items (method.listed texts)
  rw [same] at pushed
  cases method with
  | crossJoin | innerJoin | leftJoin | rightJoin | row => exact pushed
  | _ => exact pushAll_eraseDups items texts

theorem pushConditions_eraseDups (conditions : List Condition) (operator : Operator)
    (texts : List Text) :
    pushConditions conditions.eraseDups operator texts =
      (conditions ++ (givenTexts texts).map (operator, ·)).eraseDups := by
  induction texts generalizing conditions with
  | nil => simp [pushConditions, givenTexts]
  | cons first rest ih =>
      have step : pushCondition conditions.eraseDups operator first =
          (conditions ++ first.trim.unlessEmpty.map (operator, ·)).eraseDups := by
        rw [pushCondition, append_unless, unlessEmpty]
        split <;> rfl
      rw [pushConditions, List.foldl_cons, ← pushConditions, step, ih, givenTexts_cons,
        List.map_append, List.append_assoc]

theorem pushAction_eraseDups (actions : List (AlterAction × Text)) (action : AlterAction)
    (texts : List Text) :
    pushAction actions.eraseDups action texts =
      (actions ++ (newValue texts).unlessEmpty.map (action, ·)).eraseDups := by
  rw [pushAction, append_unless, unlessEmpty]
  split <;> rfl

/-! ## What acts make of a slot -/

namespace Act

/-- What an act gives to a list of texts. -/
def listed (act : Act) : List Text := act.method.listed (fragments act.arguments)

/-- What an act gives to a list of conditions. -/
def conditions (act : Act) : List Condition :=
  (givenTexts (fragments act.arguments)).map (act.method.operator, ·)

/-- What an act gives to the changes to a table. -/
def actions (act : Act) : List (AlterAction × Text) :=
  match act.method.action? with
  | some action => (newValue (fragments act.arguments)).unlessEmpty.map (action, ·)
  | none => []

/-- What an act gives to the names of a DROP. -/
def names (act : Act) : List Text := givenTexts (fragments act.arguments)

end Act

namespace Content

/-- A list that holds the first occurrences of what some acts have given. -/
def Gathers (acts : List Act) : Content → Prop
  | texts items => items = (acts.flatMap Act.listed).eraseDups
  | conditions given => given = (acts.flatMap Act.conditions).eraseDups
  | actions given => given = (acts.flatMap Act.actions).eraseDups
  | names given _ => given = (acts.flatMap Act.names).eraseDups
  | _ => True

/-- A list that gathers what was given gathers what one more act gives. -/
theorem Gathers.after {content : Content} {earlier : List Act} (gathers : content.Gathers earlier)
    (act : Act) : (content.after act).Gathers (earlier ++ [act]) := by
  cases content with
  | texts items =>
      subst gathers
      rw [Content.after, write, Gathers, pushTo_eraseDups, List.flatMap_append,
        List.flatMap_singleton]
      rfl
  | conditions given =>
      subst gathers
      rw [Content.after, write, Gathers, pushConditions_eraseDups, List.flatMap_append,
        List.flatMap_singleton]
      rfl
  | actions given =>
      subst gathers
      rw [Content.after, write]
      split
      · rename_i action changes
        rw [Gathers, pushAction_eraseDups, List.flatMap_append, List.flatMap_singleton,
          Act.actions, changes]
      · rename_i changes
        rw [Gathers, List.flatMap_append, List.flatMap_singleton, Act.actions, changes,
          List.append_nil]
  | names given ifExists =>
      subst gathers
      rw [Content.after, write, Gathers, pushAll_eraseDups, List.flatMap_append,
        List.flatMap_singleton]
      rfl
  | _ => trivial

theorem Gathers.foldl_after {content : Content} {earlier : List Act}
    (gathers : content.Gathers earlier) (acts : List Act) :
    (acts.foldl Content.after content).Gathers (earlier ++ acts) := by
  induction acts generalizing content earlier with
  | nil => rwa [List.append_nil]
  | cons act rest ih =>
      rw [List.foldl_cons, List.append_cons]
      exact ih (gathers.after act)

end Content

/-- The acts that write to a slot of a statement of the kind. -/
def Kind.actsAt (kind : Kind) (slot : Slot) (acts : List Act) : List Act :=
  acts.filter fun act => kind.slot? act.method act.arguments = some slot

/-! ## What calls have taken -/

namespace Statement

/-- What a call has taken when it ends. One that fails for want of a text has taken the arguments
before it if it takes them one after another, and nothing if it fails otherwise. -/
def taken? (statement : Statement) (call : Call) : Option Act :=
  match statement.method call.name with
  | .error _ => none
  | .ok method =>
      let met := call.arguments.takeWhile Argument.isWritable
      match statement.perform method call.arguments with
      | .ok _ => some ⟨method, call.arguments⟩
      | .error _ =>
          if (statement.callCourse method call.arguments).failure?.isSome ∧
              statement.takesEach method ∧ (statement.apply method met).isOk then
            some ⟨method, met⟩
          else none

/-- The statement as a call leaves it, successful or not. -/
def leftByCall (statement : Statement) (call : Call) : Statement :=
  match statement.method call.name with
  | .error _ => statement
  | .ok method => statement.leftBy method call.arguments

/-- The statement as calls leave it, one after another. -/
def leftByAll (statement : Statement) (calls : List Call) : Statement :=
  calls.foldl leftByCall statement

/-- What the calls of a run have taken, one after another. -/
def history (statement : Statement) : List Call → List Act
  | [] => []
  | call :: rest => (statement.taken? call).toList ++ (statement.leftByCall call).history rest

/-- A call leaves a statement as it was, or as it is with what the call has taken. -/
theorem leftByCall_cases (statement : Statement) (call : Call) :
    (statement.taken? call = none ∧ statement.leftByCall call = statement) ∨
      ∃ act, statement.taken? call = some act ∧
        ((statement.kind.arity act.method).fits act.arguments.length = true ∨
          statement.takesEach act.method = true) ∧
        statement.apply act.method act.arguments = .ok (statement.leftByCall call) := by
  rw [taken?, leftByCall]
  cases statement.method call.name with
  | error failure => exact .inl ⟨rfl, rfl⟩
  | ok method =>
      simp only [leftBy]
      cases performs : statement.perform method call.arguments with
      | ok changed =>
          obtain ⟨fits, applied⟩ := perform_eq_ok performs
          exact .inr ⟨_, rfl, .inl fits, applied⟩
      | error failure =>
          simp only [during]
          by_cases wants : (statement.callCourse method call.arguments).failure?.isSome
          · by_cases each : statement.takesEach method
            · cases applied : statement.apply method
                  (call.arguments.takeWhile Argument.isWritable) with
              | ok changed =>
                  refine .inr ⟨⟨method, call.arguments.takeWhile Argument.isWritable⟩, ?_,
                    .inr each, ?_⟩
                  · simp [wants, each, Except.isOk, Except.toBool]
                  · simp [wants, each, applied, Except.toOption]
              | error failure =>
                  left
                  simp [wants, each, Except.isOk, Except.toBool, Except.toOption]
            · left
              simp [each]
          · left
            simp [wants]

theorem kind_and_dialect_leftByCall (statement : Statement) (call : Call) :
    (statement.leftByCall call).kind = statement.kind ∧
      (statement.leftByCall call).dialect = statement.dialect := by
  rcases statement.leftByCall_cases call with ⟨-, same⟩ | ⟨act, -, -, applied⟩
  · rw [same]
    exact ⟨rfl, rfl⟩
  · exact kind_and_dialect_of_apply applied

/-- A call writes what it has taken to the slot of its method. -/
theorem content_leftByCall (statement : Statement) (call : Call) (slot : Slot) :
    (statement.leftByCall call).content slot =
      (statement.kind.actsAt slot (statement.taken? call).toList).foldl Content.after
        (statement.content slot) := by
  rcases statement.leftByCall_cases call with ⟨nothing, same⟩ | ⟨act, taken, fits, applied⟩
  · rw [nothing, same]
    rfl
  · rw [taken, content_of_apply fits applied slot, Kind.actsAt, Option.toList_some]
    by_cases writes : statement.kind.slot? act.method act.arguments = some slot
    · rw [if_pos writes, List.filter_cons_of_pos (by simpa using writes)]
      rfl
    · rw [if_neg writes, List.filter_cons_of_neg (by simpa using writes)]
      rfl

/-- A run writes to each slot what its calls have taken for it, in their order. -/
theorem content_leftByAll (statement : Statement) (calls : List Call) (slot : Slot) :
    (statement.leftByAll calls).content slot =
      (statement.kind.actsAt slot (statement.history calls)).foldl Content.after
        (statement.content slot) := by
  induction calls generalizing statement with
  | nil => rfl
  | cons call rest ih =>
      have later := ih (statement.leftByCall call)
      rw [(kind_and_dialect_leftByCall statement call).1, content_leftByCall] at later
      rw [history, Kind.actsAt, List.filter_append, List.foldl_append]
      exact later

end Statement

/-! ## New statements -/

/-- What a new statement is given, as if it were given to a statement without content. -/
def Request.acts (request : Request) : List Act :=
  match request.kind.opening, request.given with
  | some method, text :: texts => [⟨method, text :: texts⟩]
  | _, _ => []

namespace Statement

theorem gathers_empty (kind : Kind) (dialect : Dialect) (slot : Slot) :
    ((empty kind dialect).content slot).Gathers [] := by
  cases kind <;> cases slot with
  | clause place => cases place <;> trivial
  | command order => cases order <;> trivial
  | _ => trivial

theorem kind_statement (request : Request) (dialect : Dialect) :
    (request.statement dialect).kind = request.kind := by
  rw [Request.statement]
  split
  · rw [kind_edit, kind_empty]
  · exact kind_empty ..

theorem kind_of_create {request : Request} {registry : Registry} {start : Statement}
    (made : request.create registry = .ok start) : start.kind = request.kind := by
  obtain ⟨found, -, -, rfl⟩ := eq_statement_of_create made
  exact kind_statement ..

/-- A new statement has in each slot what its texts make of an empty one. -/
theorem content_statement (request : Request) (dialect : Dialect) (slot : Slot) :
    (request.statement dialect).content slot =
      (request.kind.actsAt slot request.acts).foldl Content.after
        ((empty request.kind dialect).content slot) := by
  rw [Request.statement, Request.acts]
  cases opens : request.kind.opening with
  | none => rfl
  | some method =>
      cases given : request.given with
      | nil => rfl
      | cons text texts =>
          have ordinary := isOrdinary_of_opening opens
          have here := content_edit ordinary _
            (isGivenTexts_of_opening opens dialect (text :: texts)) slot
          rw [kind_empty, ← Kind.slot?_of_isOrdinary _ ordinary (text :: texts)] at here
          rw [Kind.actsAt]
          by_cases writes : request.kind.slot? method (text :: texts) = some slot
          · rw [List.filter_cons_of_pos (by simpa using writes)]
            exact here.trans (if_pos writes)
          · rw [List.filter_cons_of_neg (by simpa using writes)]
            exact here.trans (if_neg writes)

/-- Every list of a new statement gathers what it was given, and what the calls since have. -/
theorem gathers_of_create {request : Request} {registry : Registry} {start : Statement}
    (made : request.create registry = .ok start) (calls : List Call) (slot : Slot) :
    ((start.leftByAll calls).content slot).Gathers
      (request.kind.actsAt slot (request.acts ++ start.history calls)) := by
  obtain ⟨found, -, -, rfl⟩ := eq_statement_of_create made
  rw [content_leftByAll, content_statement, kind_statement, Kind.actsAt, List.filter_append]
  exact ((gathers_empty _ found.dialect slot).foldl_after _).foldl_after _

end Statement
end SqlText
