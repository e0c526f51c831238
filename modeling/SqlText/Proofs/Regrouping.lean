import Mathlib.Logic.Relation
import SqlText.Proofs.Blanking
import SqlText.Proofs.Opening
import SqlText.Proofs.Script

/-!
# Scripts that differ in blanks and in grouping

Two scripts come to the same if they differ in the blank characters around texts, in the number of
calls that a method takes its texts in, or in where the texts of a new statement are given, be it
when it is made or in a later call of the method that opens it. They may be given later only as long
as nothing else has been given to the same list: a row in the explicit notation goes to the rows of
a `VALUES`, and what is dropped if it exists to the names of a `DROP`
(`Script.outcome_rowBetween`). The three steps (`Script.Step`) can be taken in any order, any number
of times, forth and back, and what blank texts do is the same wherever they are given
(`Script.outcome_eq_and_content_of_blank`).
-/

set_option autoImplicit false

namespace SqlText

open Relation

/-! ## Calls in pieces -/

namespace Statement

variable {statement : Statement} {method : Method} {name : Text}

/-- A call of a method that the statement does not have leaves it alone. -/
theorem leftByCall_of_missing {failure : Failure}
    (missing : statement.method name = .error failure) (arguments : List Argument) :
    statement.leftByCall ⟨name, arguments⟩ = statement ∧
      statement.call name arguments = .error failure := by
  rw [leftByCall, call, missing]
  exact ⟨rfl, rfl⟩

theorem leftByCall_of_found (found : statement.method name = .ok method)
    (arguments : List Argument) :
    statement.leftByCall ⟨name, arguments⟩ = statement.leftBy method arguments ∧
      statement.call name arguments = statement.perform method arguments := by
  rw [leftByCall, call, found]
  exact ⟨rfl, rfl⟩

/-- A call that is made in two pieces leaves the same, and succeeds if both pieces do. -/
theorem outcome_split (named : Method.ofName? name = some method)
    (each : statement.takesEach method = true) {shared one other : List Argument}
    (least : shared.length = (statement.kind.arity method).least)
    (writable : ∀ argument ∈ one ++ other, argument.isWritable = true) (back : List Call) :
    statement.outcome (⟨name, shared ++ (one ++ other)⟩ :: back) =
      statement.outcome (⟨name, shared ++ one⟩ :: ⟨name, shared ++ other⟩ :: back) := by
  have still := method_leftByCall statement ⟨name, shared ++ one⟩ name
  cases found : statement.method name with
  | error failure =>
      obtain ⟨whole, wholeFails⟩ := leftByCall_of_missing found (shared ++ (one ++ other))
      obtain ⟨first, firstFails⟩ := leftByCall_of_missing found (shared ++ one)
      obtain ⟨second, -⟩ := leftByCall_of_missing found (shared ++ other)
      simp only [outcome, leftByAll, List.foldl_cons, allSucceed, whole, first, second,
        wholeFails, firstFails]
      rfl
  | ok found? =>
      obtain rfl : found? = method :=
        Option.some.inj ((method_eq_ok found).1.symm.trans named)
      rw [found] at still
      obtain ⟨whole, wholeResult⟩ := leftByCall_of_found found (shared ++ (one ++ other))
      obtain ⟨first, firstResult⟩ := leftByCall_of_found found (shared ++ one)
      obtain ⟨second, secondResult⟩ := leftByCall_of_found still (shared ++ other)
      obtain ⟨left, succeeds⟩ := leftBy_append each least writable
      rw [← first] at left succeeds
      rw [← second, ← whole] at left
      rw [← secondResult, ← firstResult, ← wholeResult] at succeeds
      simp only [outcome, leftByAll, List.foldl_cons, allSucceed, left, succeeds, Bool.and_assoc]

/-! ## Texts that are given later -/

variable {opening : Method}

/-- Calls that leave a list alone leave the same with and without the texts in it. -/
theorem outcome_edit_opening {front : List Call} (many : statement.kind.takesMany = true)
    (opens : statement.kind.opening = some opening) (texts : List Text)
    (apart : ∀ call ∈ front, ∀ method, Method.ofName? call.name = some method →
      statement.kind.bodySlot? method ≠ statement.kind.bodySlot? opening) :
    (statement.edit opening texts).outcome front =
      ((statement.outcome front).1.edit opening texts, (statement.outcome front).2) := by
  induction front generalizing statement with
  | nil => rfl
  | cons call rest ih =>
      have found := method_congr (kind_edit statement opening texts)
        (congrArg Frame.dialect (frame_edit statement opening texts)) call.name
      have one : (statement.edit opening texts).leftByCall call =
            (statement.leftByCall call).edit opening texts ∧
          ((statement.edit opening texts).call call.name call.arguments).isOk =
            (statement.call call.name call.arguments).isOk := by
        cases has : statement.method call.name with
        | error failure =>
            obtain ⟨left, fails⟩ := leftByCall_of_missing has call.arguments
            obtain ⟨leftToo, failsToo⟩ :=
              leftByCall_of_missing (found.trans has) call.arguments
            exact ⟨leftToo.trans (congrArg (edit · opening texts) left.symm),
              by rw [failsToo, fails]⟩
        | ok method =>
            have later := leftBy_edit_opening many opens texts
              (apart call List.mem_cons_self method (method_eq_ok has).1) call.arguments
            obtain ⟨left, performs⟩ := leftByCall_of_found has call.arguments
            obtain ⟨leftToo, performsToo⟩ :=
              leftByCall_of_found (found.trans has) call.arguments
            rw [performs, performsToo]
            exact ⟨(leftToo.trans later.1).trans (congrArg (edit · opening texts) left.symm),
              later.2⟩
      have kept : (statement.leftByCall call).kind = statement.kind :=
        (kind_and_dialect_leftByCall statement call).1
      have rest : ((statement.leftByCall call).edit opening texts).outcome rest =
          (((statement.leftByCall call).outcome rest).1.edit opening texts,
            ((statement.leftByCall call).outcome rest).2) := by
        refine ih (by rwa [kept]) (by rwa [kept]) fun other member => ?_
        rw [kept]
        exact apart other (List.mem_cons_of_mem call member)
      simp only [outcome, leftByAll, Prod.mk.injEq] at rest ⊢
      simp only [List.foldl_cons, allSucceed, one.1, one.2]
      exact ⟨rest.1, by rw [rest.2]⟩

theorem arity_opening {kind : Kind} (many : kind.takesMany = true)
    (opens : kind.opening = some opening) : kind.arity opening = .any := by
  cases kind with
  | select | values | dropTable | dropIndex =>
      cases opens
      rfl
  | _ => cases many

/-- A call with texts of the method that opens a statement puts them in its list. -/
theorem leftByCall_opening {arguments : List Argument} (many : statement.kind.takesMany = true)
    (opens : statement.kind.opening = some opening) (named : Method.ofName? name = some opening)
    (writable : ∀ argument ∈ arguments, argument.isWritable = true) :
    statement.leftByCall ⟨name, arguments⟩ = statement.edit opening (fragments arguments) ∧
      (statement.call name arguments).isOk = true := by
  have found : statement.method name = .ok opening := by
    rw [method, named]
    simp only [access_of_opening opens]
  have each : statement.takesEach opening = true := by rw [takesEach, arity_opening many opens]; rfl
  have ordinary := isOrdinary_of_opening opens
  have unplaced : ¬(opening = .rawBefore ∨ opening = .rawAfter) := by
    rintro (rfl | rfl) <;> exact ordinary
  have performs := perform_of_takesEach each unplaced writable
  have given : statement.taking opening (fragments arguments) =
      statement.edit opening (fragments arguments) := by
    rw [taking, if_neg]
    rintro rfl
    exact ordinary
  obtain ⟨left, result⟩ := leftByCall_of_found found arguments
  rw [left, result, leftBy_of_perform performs, performs, given]
  exact ⟨rfl, rfl⟩

/-- Texts that a new statement is given can be given to it later, up to the first call that gives
something to the same list. -/
theorem outcome_given_later {arguments : List Argument} {front : List Call}
    (many : statement.kind.takesMany = true) (opens : statement.kind.opening = some opening)
    (named : Method.ofName? name = some opening)
    (writable : ∀ argument ∈ arguments, argument.isWritable = true)
    (apart : ∀ call ∈ front, ∀ method, Method.ofName? call.name = some method →
      statement.kind.bodySlot? method ≠ statement.kind.bodySlot? opening) (back : List Call) :
    (statement.edit opening (fragments arguments)).outcome (front ++ back) =
      statement.outcome (front ++ ⟨name, arguments⟩ :: back) := by
  have kept : (statement.leftByAll front).kind = statement.kind := kind_leftByAll statement front
  have manyToo : (statement.leftByAll front).kind.takesMany = true := by rwa [kept]
  obtain ⟨left, succeeds⟩ := leftByCall_opening manyToo (by rwa [kept]) named writable
  have before := outcome_edit_opening many opens (fragments arguments) apart
  simp only [outcome, Prod.mk.injEq] at before
  rw [outcome_append, outcome_append, before.1, before.2]
  simp only [outcome, leftByAll, List.foldl_cons, allSucceed] at left succeeds ⊢
  rw [left, succeeds, Bool.true_and]

end Statement

namespace Request

variable {request : Request}

/-- Where the texts of a request can be asked for, only its dialect can fail. -/
theorem failure?_course (writable : ∀ argument ∈ request.given, argument.isWritable = true)
    (registry : Registry) :
    (request.course registry).failure? =
      match request.dialect.resolve registry with
      | .error _ => request.dialectCourse.failure?
      | .ok _ => none := by
  rw [course]
  cases request.dialect.resolve registry with
  | error failure => rfl
  | ok found =>
      simp only
      split
      · exact Course.failure?_flatMap fun argument member =>
          Option.isNone_iff_eq_none.mp (writable argument member)
      · rfl

/-- A statement that is made of several texts is the one that is made of none, with the texts in its
list. -/
theorem create_of_takesMany {method : Method} (many : request.kind.takesMany = true)
    (opens : request.kind.opening = some method)
    (writable : ∀ argument ∈ request.texts, argument.isWritable = true) (registry : Registry) :
    request.create registry =
      ({ request with texts := [] }.create registry).map fun start : Statement =>
        start.edit method (fragments request.texts) := by
  have given (texts : List Argument) : { request with texts }.given = texts := if_pos many
  have empty (dialect : Dialect) : { request with texts := [] }.statement dialect =
      Statement.empty request.kind dialect := by
    rw [statement, given]
    split <;> first | rfl | contradiction
  have made (dialect : Dialect) : request.statement dialect =
      (Statement.empty request.kind dialect).edit method (fragments request.texts) := by
    rw [statement_of_opening opens, ← given request.texts]
  have asked : (request.course registry).result () =
      ({ request with texts := [] }.course registry).result () := by
    rw [Course.result, Course.result, failure?_course (by rwa [← given request.texts] at writable),
      failure?_course (by rw [given]; exact fun argument member => absurd member List.not_mem_nil)]
  rw [create, create, asked]
  simp only [empty, made]
  cases ({ request with texts := [] }.course registry).result () with
  | error failure => rfl
  | ok _ =>
      cases request.dialect.resolve registry with
      | error failure => rfl
      | ok found =>
          simp only [bind, Except.bind]
          split <;> rfl

end Request

/-! ## Steps from script to script -/

/-- A step from one script to another that comes to the same. -/
inductive Script.Step (first second : Script) : Prop where
  /-- The texts differ in the blank characters around them. -/
  | respelled (same : first.trimmed = second.trimmed)
  /-- A call is made in two pieces. -/
  | split {name : Text} {method : Method} {shared one other : List Argument}
      {front back : List Call} (named : Method.ofName? name = some method)
      (many : (first.request.kind.arity method).most = none)
      (least : shared.length = (first.request.kind.arity method).least)
      (writable : ∀ argument ∈ one ++ other, argument.isWritable = true)
      (request : second.request = first.request)
      (whole : first.calls = front ++ ⟨name, shared ++ (one ++ other)⟩ :: back)
      (pieces : second.calls =
        front ++ ⟨name, shared ++ one⟩ :: ⟨name, shared ++ other⟩ :: back)
  /-- The texts of a new statement are given later, before anything else is given to their list. -/
  | moved {name : Text} {opening : Method} {front back : List Call}
      (many : first.request.kind.takesMany = true)
      (opens : first.request.kind.opening = some opening)
      (named : Method.ofName? name = some opening)
      (writable : ∀ argument ∈ first.request.texts, argument.isWritable = true)
      (apart : ∀ call ∈ front, ∀ method, Method.ofName? call.name = some method →
        first.request.kind.bodySlot? method ≠ first.request.kind.bodySlot? opening)
      (request : second.request = { first.request with texts := [] })
      (before : first.calls = front ++ back)
      (after : second.calls = front ++ ⟨name, first.request.texts⟩ :: back)

namespace Script

theorem Step.outcome_eq {first second : Script} (step : first.Step second) (registry : Registry) :
    first.outcome registry = second.outcome registry := by
  cases step with
  | respelled same => rw [← first.outcome_trimmed, same, second.outcome_trimmed]
  | @split _ _ _ _ _ front _ named many least writable request whole pieces =>
      rw [outcome, outcome, request]
      cases made : first.request.create registry with
      | error failure => rfl
      | ok start =>
          have kind := Statement.kind_of_create made
          have kept : (start.leftByAll front).kind = first.request.kind :=
            (Statement.kind_leftByAll start front).trans kind
          rw [← kept] at many least
          refine congrArg Except.ok ?_
          rw [whole, pieces, Statement.outcome_append, Statement.outcome_append,
            Statement.outcome_split named (Option.isNone_iff_eq_none.mpr many) least writable]
  | moved many opens named writable apart request before after =>
      rw [outcome, outcome, request, Request.create_of_takesMany many opens writable]
      cases made : { first.request with texts := [] }.create registry with
      | error failure => rfl
      | ok start =>
          have kind : start.kind = first.request.kind :=
            (Statement.kind_of_create made).trans rfl
          rw [← kind] at many opens apart
          refine congrArg Except.ok ?_
          rw [before, after]
          exact Statement.outcome_given_later many opens named writable apart _

/-- Scripts that steps lead between come to the same. -/
theorem outcome_eq_of_eqvGen {first second : Script} (steps : EqvGen Step first second)
    (registry : Registry) : first.outcome registry = second.outcome registry := by
  induction steps with
  | rel first second step => exact step.outcome_eq registry
  | refl script => rfl
  | symm first second _ ih => exact ih.symm
  | trans first second third _ _ one other => exact one.trans other

/-- The texts of a new statement can be moved to the first call that gives texts to their list. -/
theorem eqvGen_moved {request : Request} {name : Text} {opening : Method}
    {arguments : List Argument} {front back : List Call}
    (many : request.kind.takesMany = true) (opens : request.kind.opening = some opening)
    (named : Method.ofName? name = some opening)
    (writable : ∀ argument ∈ request.texts ++ arguments, argument.isWritable = true)
    (apart : ∀ call ∈ front, ∀ method, Method.ofName? call.name = some method →
      request.kind.bodySlot? method ≠ request.kind.bodySlot? opening) :
    EqvGen Step ⟨request, front ++ ⟨name, arguments⟩ :: back, .inl many⟩
      ⟨{ request with texts := [] }, front ++ ⟨name, request.texts ++ arguments⟩ :: back,
        .inl many⟩ := by
  have any := Statement.arity_opening many opens
  refine .trans _ ⟨{ request with texts := [] },
    front ++ ⟨name, request.texts⟩ :: ⟨name, arguments⟩ :: back, .inl many⟩ _ (.rel _ _ ?_)
    (.symm _ _ (.rel _ _ ?_))
  · exact .moved many opens named (List.forall_mem_append.mp writable).1 apart rfl rfl rfl
  · exact @Step.split _ _ name opening [] request.texts arguments front back named
      (by rw [any]; rfl) (by rw [any]; rfl) writable rfl rfl rfl

/-- Scripts that steps lead between come to the same, and a call with blank texts clears what its
method sets and leaves lists alone. -/
theorem outcome_eq_and_content_of_blank :
    (∀ first second : Script, EqvGen Step first second → ∀ registry : Registry,
      first.outcome registry = second.outcome registry) ∧
    ∀ (statement changed : Statement) (name : Text) (method : Method) (arguments : List Argument),
      statement.method name = .ok method →
      (∀ argument ∈ method.fragmentArguments arguments, argument.IsBlank) →
      statement.call name arguments = .ok changed → ∀ slot : Slot,
        changed.content slot =
          if statement.kind.slot? method arguments = some slot then
            (statement.content slot).blanked method arguments
          else statement.content slot := by
  refine ⟨fun first second steps => outcome_eq_of_eqvGen steps, ?_⟩
  intro statement changed name method arguments found blank succeeds
  rw [(Statement.leftByCall_of_found found arguments).2] at succeeds
  exact Statement.content_of_blank blank succeeds

/-- A query whose columns are given in two places. -/
def spread : Script where
  request := ⟨.select, [.value (.text "a".toList)], .dialect .generic, []⟩
  calls :=
    [⟨"where".toList, [.value (.text "x".toList), .value (.text "y".toList)]⟩,
     ⟨"select".toList, [.value (.text "b".toList)]⟩]
  fits := .inl rfl

/-- The same query with its columns in one place, its conditions in two, and blanks around them. -/
def gathered : Script where
  request := ⟨.select, [], .dialect .generic, []⟩
  calls :=
    [⟨"where".toList, [.value (.text " x".toList)]⟩,
     ⟨"where".toList, [.value (.text "y\n".toList)]⟩,
     ⟨"select".toList, [.value (.text "a ".toList), .value (.text "b".toList)]⟩]
  fits := .inl rfl

theorem eqvGen_gathered : EqvGen Step spread gathered := by
  have pieces : Step spread
      ⟨spread.request,
        [⟨"where".toList, [.value (.text "x".toList)]⟩,
         ⟨"where".toList, [.value (.text "y".toList)]⟩,
         ⟨"select".toList, [.value (.text "b".toList)]⟩], .inl rfl⟩ :=
    @Step.split _ _ "where".toList .whereAnd [] [.value (.text "x".toList)]
      [.value (.text "y".toList)] [] _ rfl rfl rfl (by decide) rfl rfl rfl
  have apart : ∀ call ∈ [Call.mk "where".toList [.value (.text "x".toList)],
        Call.mk "where".toList [.value (.text "y".toList)]], ∀ method,
      Method.ofName? call.name = some method →
        Kind.select.bodySlot? method ≠ Kind.select.bodySlot? .select := by
    intro call member method named
    obtain rfl : method = .whereAnd := by
      rcases List.mem_pair.mp member with rfl | rfl <;> exact (Option.some.inj named).symm
    decide
  have moved := @eqvGen_moved spread.request "select".toList .select
    [.value (.text "b".toList)] _ [] rfl rfl rfl (by decide) apart
  exact .trans _ _ _ (.rel _ _ pieces) (.trans _ _ _ moved (.rel _ _ (.respelled rfl)))

/-- A column of the first rows. -/
def limited : Statement :=
  .select { dialect := .generic } { columns := ["a".toList], limit := "5".toList } [] []

theorem outcome_gathered :
    spread.outcome .builtIn = gathered.outcome .builtIn ∧
      ∃ changed, limited.call "limit".toList [.value (.text " ".toList)] = .ok changed ∧
        changed.content (.clause .limit) = .value [] ∧
        changed.content (.clause .select) = .texts ["a".toList] := by
  obtain ⟨same, blanks⟩ := outcome_eq_and_content_of_blank
  have blank : ∀ argument ∈ [Argument.value (.text " ".toList)], argument.IsBlank := by
    intro argument member
    obtain rfl := List.mem_singleton.mp member
    exact Text.trim_eq_nil_iff.mp rfl
  have content := blanks limited _ "limit".toList .limit _ rfl blank rfl
  exact ⟨same spread gathered eqvGen_gathered .builtIn, _, rfl, content _, content _⟩

/-- Rows that are given before and after one in the explicit notation. -/
def rowBetween : Script where
  request := ⟨.values, [.value (.text "a".toList)], .dialect .generic, []⟩
  calls :=
    [⟨"row".toList, [.value (.text "b".toList)]⟩, ⟨"values".toList, [.value (.text "c".toList)]⟩]
  fits := .inl rfl

/-- The same with the first row moved to the first call that gives rows as they are written. -/
def rowBefore : Script where
  request := ⟨.values, [], .dialect .generic, []⟩
  calls :=
    [⟨"row".toList, [.value (.text "b".toList)]⟩,
     ⟨"values".toList, [.value (.text "a".toList), .value (.text "c".toList)]⟩]
  fits := .inl rfl

/-- Rows cannot be moved past one in the explicit notation. -/
theorem outcome_rowBetween :
    rowBetween.outcome .builtIn ≠ rowBefore.outcome .builtIn ∧
      ∃ between before : Statement,
        rowBetween.outcome .builtIn = .ok (between, true) ∧
        rowBefore.outcome .builtIn = .ok (before, true) ∧
        between.render .compact = "VALUES a, ROW(b), c".toList ∧
        before.render .compact = "VALUES ROW(b), a, c".toList := by
  have between : rowBetween.outcome .builtIn =
      .ok (.values { dialect := .generic }
        { rows := ["a".toList, "ROW(b)".toList, "c".toList] }, true) := rfl
  have before : rowBefore.outcome .builtIn =
      .ok (.values { dialect := .generic }
        { rows := ["ROW(b)".toList, "a".toList, "c".toList] }, true) := rfl
  refine ⟨?_, _, _, between, before, rfl, rfl⟩
  rw [between, before]
  intro same
  have rows : ["a".toList, "ROW(b)".toList, "c".toList] =
      ["ROW(b)".toList, "a".toList, "c".toList] :=
    congrArg ValuesBody.rows (Statement.values.inj (Prod.mk.inj (Except.ok.inj same)).1).2
  exact absurd rows (by decide)

end Script
end SqlText
