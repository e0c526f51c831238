import SqlText.Proofs.History
import SqlText.Proofs.Respelling

/-!
# Calls in pieces

A method that takes any number of texts takes them one after another, so a call with several of them
does what several calls with some of them do (`Statement.edit_append`). This also goes for a call
that attaches raw text, with the place that is named in each of the calls. That the texts can be
asked for is all that is needed: then a call cannot fail but for its place
(`Statement.perform_of_takesEach`, `Statement.leftBy_append`), and a call fails if and only if its
pieces do.
-/

set_option autoImplicit false

namespace SqlText

open Text

/-! ## Lists that are taken in pieces -/

theorem pushAll_append (items first second : List Text) :
    pushAll items (first ++ second) = pushAll (pushAll items first) second :=
  List.foldl_append

theorem pushRows_append (items first second : List Text) :
    pushRows items (first ++ second) = pushRows (pushRows items first) second := by
  rw [pushRows, givenTexts_append, List.map_append, pushAll_append, ← pushRows, ← pushRows]

theorem pushConditions_append (conditions : List Condition) (operator : Operator)
    (first second : List Text) :
    pushConditions conditions operator (first ++ second) =
      pushConditions (pushConditions conditions operator first) operator second :=
  List.foldl_append

theorem RawText.pushAll_append {κ : Type} [DecidableEq κ] (raw : RawText κ) (clause : κ)
    (first second : List Text) :
    raw.pushAll clause (first ++ second) = (raw.pushAll clause first).pushAll clause second :=
  List.foldl_append

theorem fragments_append (first second : List Argument) :
    fragments (first ++ second) = fragments first ++ fragments second :=
  List.map_append

/-! ## Bodies -/

section Bodies

variable {method : Method} (first second : List Text)

theorem SelectBody.edit_append (each : (Kind.select.arity method).most = none)
    (body : SelectBody) :
    body.edit method (first ++ second) = (body.edit method first).edit method second := by
  cases method with
  | select | fromTables | groupBy | window | orderBy => simp only [edit, pushAll_append]
  | whereAnd | whereOr | havingAnd | havingOr => simp only [edit, pushConditions_append]
  | crossJoin | innerJoin | leftJoin | rightJoin | limit | offset => cases each
  | _ => rfl

theorem InsertBody.edit_append (each : (Kind.insert.arity method).most = none)
    (body : InsertBody) :
    body.edit method (first ++ second) = (body.edit method first).edit method second := by
  cases method with
  | values | returning => simp only [edit, pushAll_append]
  | row => simp only [edit, pushRows_append]
  | insertInto | insertOr | replaceInto | overriding | onConflict => cases each
  | _ => rfl

theorem UpdateBody.edit_append (each : (Kind.update.arity method).most = none)
    (body : UpdateBody) :
    body.edit method (first ++ second) = (body.edit method first).edit method second := by
  cases method with
  | set | fromTables | returning => simp only [edit, pushAll_append]
  | whereAnd | whereOr => simp only [edit, pushConditions_append]
  | crossJoin | innerJoin | leftJoin | rightJoin | update | updateOr => cases each
  | _ => rfl

theorem DeleteBody.edit_append (each : (Kind.delete.arity method).most = none)
    (body : DeleteBody) :
    body.edit method (first ++ second) = (body.edit method first).edit method second := by
  cases method with
  | partition | orderBy | returning => simp only [edit, pushAll_append]
  | whereAnd | whereOr => simp only [edit, pushConditions_append]
  | deleteFrom | limit => cases each
  | _ => rfl

theorem ValuesBody.edit_append (body : ValuesBody) :
    body.edit method (first ++ second) = (body.edit method first).edit method second := by
  cases method with
  | values => simp only [edit, pushAll_append]
  | row => simp only [edit, pushRows_append]
  | _ => rfl

theorem CreateTableBody.edit_append (each : (Kind.createTable.arity method).most = none)
    (body : CreateTableBody) :
    body.edit method (first ++ second) = (body.edit method first).edit method second := by
  cases method with
  | column | constraint | foreignKey => simp only [edit, pushAll_append]
  | createTable | createTableIfNotExists | primaryKey => cases each
  | _ => rfl

theorem DropBody.edit_append (body : DropBody) :
    body.edit method (first ++ second) = (body.edit method first).edit method second := by
  cases method with
  | dropTable | dropIndex | dropTableIfExists | dropIndexIfExists =>
      simp only [edit, pushAll_append]
  | _ => rfl

theorem CreateIndexBody.edit_append (each : (Kind.createIndex.arity method).most = none)
    (body : CreateIndexBody) :
    body.edit method (first ++ second) = (body.edit method first).edit method second := by
  cases method with
  | column | includeColumns => simp only [edit, pushAll_append]
  | whereAnd | whereOr => simp only [edit, pushConditions_append]
  | createIndex | createIndexIfNotExists | onTable | usingMethod => cases each
  | _ => rfl

theorem AlterTableBody.edit_eq_self (each : (Kind.alterTable.arity method).most = none)
    (body : AlterTableBody) (texts : List Text) : body.edit method texts = body := by
  cases method with
  | alterTable | renameTo | add | drop | alter | rename => cases each
  | _ => rfl

theorem TransactionBody.edit_eq_self (each : (Kind.transaction.arity method).most = none)
    (body : TransactionBody) (texts : List Text) : body.edit method texts = body := by
  cases method with
  | begin | startTransaction | setTransaction | commit | finish => cases each
  | _ => rfl

end Bodies

namespace Statement

variable {statement : Statement} {method : Method}

/-- A call with texts of a method that takes any number does what two calls with some of them do. -/
theorem edit_append (each : statement.takesEach method = true) (first second : List Text) :
    statement.edit method (first ++ second) =
      (statement.edit method first).edit method second := by
  have most := Option.isNone_iff_eq_none.mp each
  cases statement with
  | select => simp only [edit, SelectBody.edit_append first second most]
  | insert => simp only [edit, InsertBody.edit_append first second most]
  | update => simp only [edit, UpdateBody.edit_append first second most]
  | delete => simp only [edit, DeleteBody.edit_append first second most]
  | values => simp only [edit, ValuesBody.edit_append first second]
  | createTable => simp only [edit, CreateTableBody.edit_append first second most]
  | dropTable | dropIndex => simp only [edit, DropBody.edit_append first second]
  | createIndex => simp only [edit, CreateIndexBody.edit_append first second most]
  | alterTable => simp only [edit, AlterTableBody.edit_eq_self most]
  | transaction =>
      have noCommand : method.entryCommand? = none := by
        cases method <;> first | rfl | cases most
      simp only [edit, noCommand, TransactionBody.edit_eq_self most]

/-! ## Methods that take any number of texts -/

theorem putsInside_of_takesEach (each : statement.takesEach method = true) :
    statement.putsInside method = false := by
  have most := Option.isNone_iff_eq_none.mp each
  cases statement with
  | select | insert | transaction => cases method <;> first | rfl | cases most
  | _ => rfl

theorem writes_of_takesEach (each : statement.takesEach method = true) :
    method.writes = false := by
  cases method with
  | render | toText | quote | print | debug =>
      cases kind : statement.kind <;> rw [takesEach, kind] at each <;> cases each
  | _ => rfl

/-- A method that takes any number of texts takes nothing else, but for a place before them. -/
theorem least_of_takesEach (each : statement.takesEach method = true) :
    (statement.kind.arity method).least =
      if method = .rawBefore ∨ method = .rawAfter then 1 else 0 := by
  rw [takesEach] at each
  revert each
  unfold Kind.arity
  split <;> simp [Arity.any, Arity.one, Arity.none, Arity.optional, Arity.never]

variable {arguments : List Argument}

theorem fits_of_takesEach (each : statement.takesEach method = true)
    (enough : (statement.kind.arity method).least ≤ arguments.length) :
    (statement.kind.arity method).fits arguments.length = true := by
  rw [Arity.fits, Option.isNone_iff_eq_none.mp each]
  simpa using enough

/-! ## Calls without a place -/

/-- The statement after a call with texts alone. -/
def taking (statement : Statement) (method : Method) (texts : List Text) : Statement :=
  if method = .raw then statement.addRaw texts else statement.edit method texts

theorem kind_taking (statement : Statement) (method : Method) (texts : List Text) :
    (statement.taking method texts).kind = statement.kind := by
  rw [taking]
  split
  · exact kind_withFrame ..
  · exact kind_edit ..

theorem takesEach_taking (statement : Statement) (method : Method) (texts : List Text) :
    (statement.taking method texts).takesEach method = statement.takesEach method := by
  rw [takesEach, takesEach, kind_taking]

theorem taking_append (each : statement.takesEach method = true) (first second : List Text) :
    statement.taking method (first ++ second) =
      (statement.taking method first).taking method second := by
  by_cases raw : method = .raw
  · rw [taking, taking, taking, if_pos raw, if_pos raw, if_pos raw, addRaw, pushAll_append]
    cases statement <;> rfl
  · rw [taking, taking, taking, if_neg raw, if_neg raw, if_neg raw, edit_append each]

theorem apply_of_takesEach (each : statement.takesEach method = true)
    (unplaced : ¬(method = .rawBefore ∨ method = .rawAfter)) :
    statement.apply method arguments = .ok (statement.taking method (fragments arguments)) := by
  by_cases raw : method = .raw
  · subst raw
    rfl
  · have ordinary : method.IsOrdinary := by
      cases method with
      | raw => exact raw rfl
      | rawBefore | rawAfter => exact unplaced (by simp)
      | withQuery =>
          rw [takesEach, Kind.arity_withQuery] at each
          cases each
      | _ => trivial
    rw [taking, if_neg raw, apply_eq_edit ordinary (writes_of_takesEach each)]
    intro puts
    rw [putsInside_of_takesEach each] at puts
    cases puts

/-- A call that needs no place succeeds if its texts can be asked for. -/
theorem perform_of_takesEach (each : statement.takesEach method = true)
    (unplaced : ¬(method = .rawBefore ∨ method = .rawAfter))
    (writable : ∀ argument ∈ arguments, argument.isWritable = true) :
    statement.perform method arguments =
      .ok (statement.taking method (fragments arguments)) := by
  have enough : (statement.kind.arity method).least ≤ arguments.length := by
    rw [least_of_takesEach each, if_neg unplaced]
    exact Nat.zero_le _
  rw [perform, if_pos (fits_of_takesEach each enough), Course.result,
    failure?_callCourse (writes_of_takesEach each) writable]
  exact apply_of_takesEach each unplaced

/-! ## Calls with a place -/

/-- The statement after raw text has been attached. -/
def attaching (statement : Statement) (method : Method) (clause : Clause) (texts : List Text) :
    Statement :=
  if method = .rawBefore then statement.addBefore clause texts else statement.addAfter clause texts

theorem attaching_append (statement : Statement) (method : Method) (clause : Clause)
    (first second : List Text) :
    statement.attaching method clause (first ++ second) =
      (statement.attaching method clause first).attaching method clause second := by
  by_cases before : method = .rawBefore
  · rw [attaching, attaching, attaching, if_pos before, if_pos before, if_pos before, addBefore,
      RawText.pushAll_append]
    cases statement <;> rfl
  · rw [attaching, attaching, attaching, if_neg before, if_neg before, if_neg before, addAfter,
      RawText.pushAll_append]
    cases statement <;> rfl

/-- The statement has the same places after raw text has been attached. -/
theorem clause_attaching (statement : Statement) (method : Method) (clause : Clause)
    (texts : List Text) (place : Argument) :
    (statement.attaching method clause texts).clause place = statement.clause place := by
  rw [attaching]
  split <;> cases statement <;> rfl

section Places

variable (placed : method = .rawBefore ∨ method = .rawAfter) {place : Argument}
include placed

theorem takesEach_of_placed (statement : Statement) : statement.takesEach method = true := by
  rcases placed with rfl | rfl <;> cases kind : statement.kind <;> rw [takesEach, kind] <;> rfl

theorem fits_of_placed (statement : Statement) (place : Argument) (texts : List Argument) :
    (statement.kind.arity method).fits (place :: texts).length = true := by
  have each := takesEach_of_placed placed statement
  refine fits_of_takesEach each ?_
  rw [least_of_takesEach each, if_pos placed]
  exact Nat.succ_le_succ (Nat.zero_le _)

/-- A call with a place that the statement has attaches its texts, if they can be asked for. -/
theorem perform_of_placed {clause : Clause} {texts : List Argument}
    (found : statement.clause place = .ok clause)
    (writable : ∀ argument ∈ place :: texts, argument.isWritable = true) :
    statement.perform method (place :: texts) =
      .ok (statement.attaching method clause (fragments texts)) := by
  have silent := writes_of_takesEach (takesEach_of_placed placed statement)
  rw [perform, if_pos (fits_of_placed placed statement place texts), Course.result,
    failure?_callCourse silent writable]
  rcases placed with rfl | rfl <;> simp only [apply, found] <;> rfl

/-- A place that cannot be asked for its text stops the call. -/
theorem failure?_of_unwritable (unwritten : place.isWritable = false) (statement : Statement)
    (texts : List Argument) :
    ((statement.callCourse method (place :: texts)).failure?).isSome = true := by
  have stops : place.course.failure?.isSome = true := by
    rw [Argument.isWritable, Option.isNone_eq_false_iff] at unwritten
    exact unwritten
  have first : ∀ rest, ((statement.shownArguments .rawBefore (place :: texts) = place :: rest) →
      ((statement.callCourse method (place :: texts)).failure?).isSome = true) := by
    intro rest shown
    have same : statement.shownArguments method (place :: texts) = place :: rest := by
      rcases placed with rfl | rfl <;> exact shown
    rw [callCourse, if_pos (fits_of_placed placed statement place texts), same, List.flatMap_cons,
      List.append_assoc, Course.failure?_append, Option.isSome_or, stops, Bool.true_or]
  have shown : ∃ rest, statement.shownArguments .rawBefore (place :: texts) = place :: rest := by
    cases place with
    | member | other => cases unwritten
    | value | statement | command | fixed =>
        simp only [shownArguments]
        split
        · exact ⟨_, rfl⟩
        · exact ⟨_, rfl⟩
  obtain ⟨rest, shown⟩ := shown
  exact first rest shown

/-- A call with a place that cannot be asked for its text, or that the statement does not have,
fails and changes nothing. -/
theorem leftBy_of_misplaced {texts : List Argument}
    (missing : ¬(place.isWritable = true ∧ (statement.clause place).isOk = true))
    (writable : ∀ argument ∈ texts, argument.isWritable = true) :
    (statement.perform method (place :: texts)).isOk = false ∧
      statement.leftBy method (place :: texts) = statement := by
  have silent := writes_of_takesEach (takesEach_of_placed placed statement)
  have fits := fits_of_placed placed statement place texts
  cases written : place.isWritable with
  | true =>
      have all : ∀ argument ∈ place :: texts, argument.isWritable = true :=
        List.forall_mem_cons.mpr ⟨written, writable⟩
      cases found : statement.clause place with
      | ok clause => exact absurd ⟨written, by rw [found]; rfl⟩ missing
      | error failure =>
          have fails : statement.perform method (place :: texts) = .error failure := by
            rw [perform, if_pos fits, Course.result, failure?_callCourse silent all]
            rcases placed with rfl | rfl <;> simp only [apply, found] <;> rfl
          rw [fails]
          exact ⟨rfl, leftBy_of_perform_eq_error silent
            (fun argument shown => all argument (mem_of_mem_shownArguments shown)) fails⟩
  | false =>
      have wants := failure?_of_unwritable placed written statement texts
      obtain ⟨failure, stops⟩ := Option.isSome_iff_exists.mp wants
      have fails : statement.perform method (place :: texts) = .error failure := by
        rw [perform, if_pos fits, Course.result, stops]
        rfl
      have nothing : statement.apply method [] = .ok statement := by
        rcases placed with rfl | rfl <;> cases statement <;> rfl
      rw [leftBy, fails]
      refine ⟨rfl, ?_⟩
      rw [List.takeWhile_cons_of_neg (by simp [written]), during, nothing]
      simp [wants, Except.toOption]

end Places

/-! ## Calls in pieces -/

/-- A call of a method that takes any number of texts leaves what two calls with some of them do,
and fails if one of these does. What the method takes before its texts is given to both. -/
theorem leftBy_append (each : statement.takesEach method = true)
    {shared first second : List Argument}
    (least : shared.length = (statement.kind.arity method).least)
    (writable : ∀ argument ∈ first ++ second, argument.isWritable = true) :
    statement.leftBy method (shared ++ (first ++ second)) =
        (statement.leftBy method (shared ++ first)).leftBy method (shared ++ second) ∧
      (statement.perform method (shared ++ (first ++ second))).isOk =
        ((statement.perform method (shared ++ first)).isOk &&
          ((statement.leftBy method (shared ++ first)).perform method
            (shared ++ second)).isOk) := by
  obtain ⟨firstWritable, secondWritable⟩ := List.forall_mem_append.mp writable
  rw [least_of_takesEach each] at least
  by_cases placed : method = .rawBefore ∨ method = .rawAfter
  · rw [if_pos placed] at least
    obtain ⟨place, rfl⟩ := List.length_eq_one_iff.mp least
    by_cases missing : place.isWritable = true ∧ (statement.clause place).isOk = true
    · obtain ⟨written, offered⟩ := missing
      cases found : statement.clause place with
      | error failure =>
          rw [found] at offered
          cases offered
      | ok clause =>
          have all {texts : List Argument}
              (tail : ∀ argument ∈ texts, argument.isWritable = true) :
              ∀ argument ∈ place :: texts, argument.isWritable = true :=
            List.forall_mem_cons.mpr ⟨written, tail⟩
          have again := (clause_attaching statement method clause (fragments first) place).trans
            found
          have whole := perform_of_placed placed found (all writable)
          have one := perform_of_placed placed found (all firstWritable)
          have other := perform_of_placed placed again (all secondWritable)
          simp only [List.singleton_append, leftBy_of_perform whole, leftBy_of_perform one,
            leftBy_of_perform other, whole, one, other]
          rw [fragments_append, attaching_append]
          exact ⟨rfl, rfl⟩
    · obtain ⟨wholeFails, whole⟩ := leftBy_of_misplaced placed missing writable
      obtain ⟨oneFails, one⟩ := leftBy_of_misplaced placed missing firstWritable
      obtain ⟨otherFails, other⟩ := leftBy_of_misplaced placed missing secondWritable
      simp only [List.singleton_append, whole, one, other, wholeFails, oneFails, Bool.false_and,
        and_self]
  · rw [if_neg placed] at least
    obtain rfl := List.length_eq_zero_iff.mp least
    have eachToo := (takesEach_taking statement method (fragments first)).trans each
    have whole := perform_of_takesEach each placed writable
    have one := perform_of_takesEach each placed firstWritable
    have other := perform_of_takesEach eachToo placed secondWritable
    simp only [List.nil_append, leftBy_of_perform whole, leftBy_of_perform one,
      leftBy_of_perform other, whole, one, other]
    rw [fragments_append, taking_append each]
    exact ⟨rfl, rfl⟩

end Statement
end SqlText
