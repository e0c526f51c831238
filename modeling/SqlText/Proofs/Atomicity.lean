import SqlText.Proofs.Reachable
import SqlText.Proofs.Splitting

/-!
# What a failing call leaves

A call that fails changes nothing, with one exception. A method that takes any number of texts asks
for one after another and stores each of them at once, so if a text is missing, those before it
have been stored. The statement is left as the call with these alone leaves it
(`Statement.Stops`), and this is the only way in which a failing call leaves anything else than the
statement it was called on (`Statement.leftBy_of_stops`, `Statement.leftBy_of_not_stops`).

Together with the reasons for which a call fails this tells what a call can do that does not write
the statement itself (`Statement.call_eq_error_iff`).
-/

set_option autoImplicit false

namespace SqlText

/-- Whether the failure says that there is no such attribute. -/
def Failure.deniesAttribute : Failure → Bool
  | .noAttribute .. | .gatedMethod .. => true
  | _ => false

namespace Statement

variable {statement left : Statement} {name : Text} {method : Method} {arguments : List Argument}
  {failure : Failure}

/-- The call of a method that takes any number of texts comes to one that is missing, for the
failure, and has done by then what it does with the arguments before it. -/
inductive Stops (statement : Statement) (method : Method) (arguments : List Argument)
    (failure : Failure) (left : Statement) : Prop where
  | intro {taken rest : List Argument} {missing : Argument}
      (each : statement.takesEach method = true)
      (split : arguments = taken ++ missing :: rest)
      (written : ∀ argument ∈ taken, argument.isWritable = true)
      (mute : missing.course.failure? = some failure)
      (performs : statement.perform method taken = .ok left)

/-! ## The texts that are asked for one after another -/

theorem shownArguments_of_takesEach (each : statement.takesEach method = true)
    (unplaced : ¬(method = .rawBefore ∨ method = .rawAfter)) :
    statement.shownArguments method arguments = arguments := by
  have silent := writes_of_takesEach each
  have outside := putsInside_of_takesEach each
  cases method with
  | render | toText | quote | print | debug => cases silent
  | rawBefore | rawAfter => exact absurd (by simp) unplaced
  | withQuery =>
      rw [takesEach, Kind.arity_withQuery] at each
      cases each
  | _ =>
      cases statement with
      | select | insert | transaction => first | rfl | cases outside
      | _ => rfl

/-- Where the place can be asked for its text and leads to a clause, a call that attaches raw text
comes to the same missing text as the texts themselves. -/
theorem findSome?_shownPlace {clause : Clause} {place : Argument} {texts : List Argument}
    (written : place.isWritable = true) (found : statement.clause place = .ok clause) :
    (statement.shownArguments .rawBefore (place :: texts)).findSome? (·.course.failure?) =
      texts.findSome? (·.course.failure?) := by
  have silent : place.course.failure? = none := Option.isNone_iff_eq_none.mp written
  have offered : (statement.clause place).isOk = true := by
    rw [found]
    rfl
  have named : ∃ clause, statement.namedClause place = .ok clause := by
    rw [Statement.clause] at found
    cases named : statement.namedClause place with
    | ok clause => exact ⟨clause, rfl⟩
    | error failure =>
        rw [named] at found
        cases found
  obtain ⟨clause, named⟩ := named
  cases place with
  | member entry => simp only [shownArguments, offered, if_true]
  | value | command | fixed | statement | other =>
      simp only [shownArguments, named, offered, if_true, List.cons_append, List.nil_append,
        List.findSome?_cons, silent]

/-- A search for a missing text passes over arguments that can be asked for theirs. -/
theorem findSome?_append_of_writable {taken rest : List Argument}
    (written : ∀ argument ∈ taken, argument.isWritable = true) :
    (taken ++ rest).findSome? (·.course.failure?) = rest.findSome? (·.course.failure?) := by
  have skipped : taken.findSome? (·.course.failure?) = none :=
    List.findSome?_eq_none_iff.mpr fun argument member =>
      Option.isNone_iff_eq_none.mp (written argument member)
  rw [List.findSome?_append, skipped, Option.none_or]

/-- A call that attaches raw text succeeds only with a place that leads to a clause. -/
theorem exists_clause_of_perform (placed : method = .rawBefore ∨ method = .rawAfter)
    (written : ∀ argument ∈ arguments, argument.isWritable = true)
    (performs : statement.perform method arguments = .ok left) :
    ∃ place texts clause, arguments = place :: texts ∧ statement.clause place = .ok clause := by
  cases arguments with
  | nil =>
      rw [perform, if_neg] at performs
      · cases performs
      · rw [Arity.fits, least_of_takesEach (takesEach_of_placed placed statement), if_pos placed]
        exact Bool.false_ne_true
  | cons place texts =>
      cases found : statement.clause place with
      | ok clause => exact ⟨place, texts, clause, rfl, found⟩
      | error failure =>
          have missing : ¬(place.isWritable = true ∧ (statement.clause place).isOk = true) := by
            rw [found]
            exact fun both => Bool.false_ne_true both.2
          have fails := (leftBy_of_misplaced placed missing
            fun argument member => written argument (List.mem_cons_of_mem _ member)).1
          rw [performs] at fails
          cases fails

/-- What is asked for in a call that could be made with the first arguments alone goes as far as
these do, and then on. -/
theorem findSome?_shownArguments {taken rest : List Argument}
    (each : statement.takesEach method = true)
    (written : ∀ argument ∈ taken, argument.isWritable = true)
    (performs : statement.perform method taken = .ok left) :
    (statement.shownArguments method (taken ++ rest)).findSome? (·.course.failure?) =
      rest.findSome? (·.course.failure?) := by
  by_cases placed : method = .rawBefore ∨ method = .rawAfter
  · obtain ⟨place, texts, clause, rfl, found⟩ := exists_clause_of_perform placed written performs
    obtain ⟨placeWritten, textsWritten⟩ := List.forall_mem_cons.mp written
    have shown : (statement.shownArguments .rawBefore (place :: (texts ++ rest))).findSome?
        (·.course.failure?) = (texts ++ rest).findSome? (·.course.failure?) :=
      findSome?_shownPlace placeWritten found
    rw [findSome?_append_of_writable textsWritten] at shown
    rcases placed with rfl | rfl <;> exact shown
  · rw [shownArguments_of_takesEach each placed, findSome?_append_of_writable written]

/-! ## What is left -/

/-- The arguments that such a call has taken are those before the first that is missing. -/
theorem takeWhile_of_split {taken rest : List Argument} {missing : Argument}
    (written : ∀ argument ∈ taken, argument.isWritable = true)
    (mute : missing.course.failure? = some failure) :
    (taken ++ missing :: rest).takeWhile Argument.isWritable = taken := by
  rw [List.takeWhile_append_of_pos written, List.takeWhile_cons_of_neg, List.append_nil]
  rw [Argument.isWritable, mute]
  exact Bool.false_ne_true

theorem fits_of_perform (performs : statement.perform method arguments = .ok left) :
    (statement.kind.arity method).fits arguments.length = true := by
  by_contra misfits
  rw [perform, if_neg misfits] at performs
  cases performs

theorem apply_of_perform (performs : statement.perform method arguments = .ok left) :
    statement.apply method arguments = .ok left := by
  rw [perform, if_pos (fits_of_perform performs), Course.result] at performs
  split at performs
  · cases performs
  · exact performs

/-- A call that fails for want of a text, and could have been made with the arguments before it,
stops there. -/
theorem stops_of_misses {other : Failure} (each : statement.takesEach method = true)
    (misses : (statement.callCourse method arguments).failure? = some other)
    (fails : statement.perform method arguments = .error failure)
    (performs : statement.perform method (arguments.takeWhile Argument.isWritable) = .ok left) :
    statement.Stops method arguments failure left := by
  have written : ∀ argument ∈ arguments.takeWhile Argument.isWritable,
      argument.isWritable = true := fun _ member => List.mem_takeWhile_imp member
  have parts : arguments = arguments.takeWhile Argument.isWritable ++
      arguments.dropWhile Argument.isWritable := List.takeWhile_append_dropWhile.symm
  have fits : (statement.kind.arity method).fits arguments.length = true := by
    by_contra misfits
    rw [callCourse, if_neg misfits] at misses
    cases misses
  have same : other = failure := by
    rw [perform, if_pos fits, Course.result, misses] at fails
    cases fails
    rfl
  rw [failure?_callCourse_eq (writes_of_takesEach each) fits, parts,
    findSome?_shownArguments each written performs] at misses
  cases rest : arguments.dropWhile Argument.isWritable with
  | nil =>
      rw [rest] at misses
      cases misses
  | cons missing later =>
      have unwritten : missing.isWritable = false := by
        have nonempty : arguments.dropWhile Argument.isWritable ≠ [] := by
          rw [rest]
          exact List.cons_ne_nil missing later
        simpa only [rest, List.head_cons] using List.head_dropWhile_not _ nonempty
      obtain ⟨found, mute⟩ : ∃ found, missing.course.failure? = some found := by
        rwa [Argument.isWritable, Option.isNone_eq_false_iff, Option.isSome_iff_exists] at unwritten
      rw [rest, List.findSome?_cons, mute] at misses
      cases misses
      exact .intro each (by rw [← rest, ← parts]) written (by rw [mute, same]) performs

/-- A call that comes to a missing text fails for it, and leaves what it has done by then. -/
theorem leftBy_of_stops (stops : statement.Stops method arguments failure left) :
    statement.perform method arguments = .error failure ∧
      statement.leftBy method arguments = left := by
  obtain ⟨each, rfl, written, mute, performs⟩ := stops
  rename_i taken rest missing
  have enough : (statement.kind.arity method).least ≤ taken.length := by
    have fits := fits_of_perform performs
    rw [Arity.fits, Bool.and_eq_true, decide_eq_true_eq] at fits
    exact fits.1
  have fits : (statement.kind.arity method).fits (taken ++ missing :: rest).length = true := by
    refine fits_of_takesEach each ?_
    rw [List.length_append]
    omega
  have misses : (statement.callCourse method (taken ++ missing :: rest)).failure? =
      some failure := by
    rw [failure?_callCourse_eq (writes_of_takesEach each) fits,
      findSome?_shownArguments each written performs, List.findSome?_cons, mute]
  have fails : statement.perform method (taken ++ missing :: rest) = .error failure := by
    rw [perform, if_pos fits, Course.result, misses]
    rfl
  refine ⟨fails, ?_⟩
  rw [leftBy, fails]
  simp only [misses, Option.isSome_some, if_true]
  rw [takeWhile_of_split written mute, during, if_pos each, apply_of_perform performs]
  rfl

/-- Where the arguments alone do not make a call, nothing is done with them. -/
theorem during_of_perform_eq_error (each : statement.takesEach method = true)
    (written : ∀ argument ∈ arguments, argument.isWritable = true)
    (fails : statement.perform method arguments = .error failure) :
    statement.during method arguments = statement := by
  rw [during, if_pos each]
  by_cases enough : (statement.kind.arity method).least ≤ arguments.length
  · have applied : statement.perform method arguments = statement.apply method arguments := by
      rw [perform, if_pos (fits_of_takesEach each enough), Course.result,
        failure?_callCourse (writes_of_takesEach each) written]
      rfl
    rw [← applied, fails]
    rfl
  · rw [least_of_takesEach each] at enough
    split at enough
    · rename_i placed
      obtain rfl : arguments = [] := List.length_eq_zero_iff.mp (by omega)
      rcases placed with rfl | rfl <;> cases statement <;> rfl
    · omega

/-- A call that fails in any other way leaves the statement as it was. -/
theorem leftBy_of_not_stops (fails : statement.perform method arguments = .error failure)
    (completes : ∀ left, ¬statement.Stops method arguments failure left) :
    statement.leftBy method arguments = statement := by
  rw [leftBy, fails]
  cases misses : (statement.callCourse method arguments).failure? with
  | none => rfl
  | some other =>
      simp only [Option.isSome_some, if_true]
      by_cases each : statement.takesEach method = true
      · have written : ∀ argument ∈ arguments.takeWhile Argument.isWritable,
            argument.isWritable = true := fun _ member => List.mem_takeWhile_imp member
        cases performs : statement.perform method (arguments.takeWhile Argument.isWritable) with
        | error early => exact during_of_perform_eq_error each written performs
        | ok left => exact absurd (stops_of_misses each misses fails performs) (completes left)
      · rw [during, if_neg each]

/-! ## Failing calls -/

theorem deniesAttribute_of_misplaces {place : Argument}
    (misplaced : statement.Misplaces place failure) : failure.deniesAttribute = false := by
  cases misplaced <;> rfl

theorem deniesAttribute_of_declines (declines : statement.Declines method arguments failure) :
    failure.deniesAttribute = false := by
  cases declines with
  | place attaches misplaced => exact deniesAttribute_of_misplaces misplaced
  | query | operand | statement => rfl

/-- A call fails exactly for one of the reasons, and there is a text missing where it says that the
statement has no attribute that it has. Where it comes to a missing text after others, it has stored
these, and where it fails in any other way, it has changed nothing. A clause that can be found by
its value is what the value names, and the arguments without a text are known. -/
theorem call_eq_error_iff
    (silent : ∀ method, Method.ofName? name = some method → method.writes = false) :
    (∀ failure, statement.call name arguments = .error failure ↔
      statement.Refuses name arguments failure) ∧
    (statement.has name = false ↔
      ∃ failure, statement.call name arguments = .error failure ∧ statement.Lacks name failure) ∧
    (∀ failure, statement.call name arguments = .error failure →
      failure.deniesAttribute = true → statement.has name = true →
        ∃ method, statement.Finds name method ∧ statement.Misses method arguments failure) ∧
    (∀ method, statement.method name = .ok method →
      (∀ failure left, statement.Stops method arguments failure left →
        statement.call name arguments = .error failure ∧
          statement.leftBy method arguments = left) ∧
      ∀ failure, statement.call name arguments = .error failure →
        (∀ left, ¬statement.Stops method arguments failure left) →
          statement.leftBy method arguments = statement) ∧
    (∀ text clause, statement.kind.clauseOfValue? text = some clause →
      ∀ other, Argument.Names statement.kind (.value (.text text)) other ↔ other = clause) ∧
    ∀ argument : Argument, argument.isWritable = false ↔ argument.IsMute := by
  refine ⟨fun failure => refuses_iff silent, ?_, ?_, ?_,
    fun text clause found other => names_iff_of_clauseOfValue? found,
    fun argument => Argument.isWritable_eq_false_iff⟩
  · rw [has_eq_false]
    exact ⟨fun ⟨failure, lacks⟩ => ⟨failure, (refuses_iff silent).mpr (.method lacks), lacks⟩,
      fun ⟨failure, _, lacks⟩ => ⟨failure, lacks⟩⟩
  · intro failure fails denies has
    cases (refuses_iff silent).mp fails with
    | method lacks =>
        rw [has_eq_false.mpr ⟨failure, lacks⟩] at has
        cases has
    | count => cases denies
    | text finds fits misses => exact ⟨_, finds, misses⟩
    | argument finds fits written declines =>
        rw [deniesAttribute_of_declines declines] at denies
        cases denies
  · intro method found
    have same : statement.call name arguments = statement.perform method arguments := by
      rw [call, found]
      rfl
    rw [same]
    exact ⟨fun failure left stops => leftBy_of_stops stops,
      fun failure fails completes => leftBy_of_not_stops fails completes⟩

/-- A SELECT with a common table expression whose text is missing. -/
def withMissing : Statement :=
  (empty .select .generic).leftBy .withQuery [.value (.text "q".toList), .fixed .none]

theorem reachable_withMissing : withMissing.Reachable := by
  have made : Request.create ⟨.select, [], .dialect .generic, []⟩ .builtIn =
      .ok (empty .select .generic) := rfl
  refine .called "with_".toList _ (.created made) rfl (fun entry member => ?_)
    fun inner member => ?_
  · simp at member
  · simp at member

/-- A condition before a missing text is stored, while a place that is no clause stops a call before
anything is. -/
theorem leftBy_whereAnd_missing :
    (empty .select .generic).leftBy .whereAnd
        [.value (.text "x".toList), .statement withMissing] =
      select { dialect := .generic } { conditions := [(.and, "x".toList)] } [] [] ∧
    (empty .select .generic).call "raw_before".toList
        [.value (.text "y".toList), .value (.text "x".toList)] =
      .error (.unknownClause .select "'y'".toList) ∧
    (empty .select .generic).leftBy .rawBefore
        [.value (.text "y".toList), .value (.text "x".toList)] = empty .select .generic := by
  have silent : ∀ name ∈ ["where".toList, "raw_before".toList], ∀ method,
      Method.ofName? name = some method → method.writes = false := by
    decide
  obtain ⟨-, -, -, stored, -⟩ := @call_eq_error_iff (empty .select .generic)
    "where".toList [.value (.text "x".toList), .statement withMissing] (silent _ (by simp))
  obtain ⟨reasons, -, -, kept, -⟩ := @call_eq_error_iff (empty .select .generic)
    "raw_before".toList [.value (.text "y".toList), .value (.text "x".toList)]
    (silent _ (by simp))
  have stops : (empty .select .generic).Stops .whereAnd
      [.value (.text "x".toList), .statement withMissing]
      (.noAttribute "NoneType" "strip".toList)
      (select { dialect := .generic } { conditions := [(.and, "x".toList)] } [] []) := by
    refine @Stops.intro _ _ _ _ _ [.value (.text "x".toList)] [] (.statement withMissing) rfl rfl
      (fun argument member => ?_) rfl rfl
    rw [List.mem_singleton.mp member]
    rfl
  have written : ∀ argument ∈ [Argument.value (.text "y".toList), .value (.text "x".toList)],
      argument.isWritable = true :=
    List.forall_mem_cons.mpr ⟨rfl, List.forall_mem_singleton.mpr rfl⟩
  have finds : (empty .select .generic).Finds "raw_before".toList .rawBefore :=
    method_eq_ok_iff.mp rfl
  have quoted : (Argument.value (.text "y".toList)).quoted = "'y'".toList := by decide +kernel
  have misplaced : (empty .select .generic).Misplaces (.value (.text "y".toList))
      (.unknownClause .select "'y'".toList) := by
    rw [← quoted]
    exact .unknown nofun (by decide)
  have fails := (reasons (.unknownClause .select "'y'".toList)).mpr <|
    .argument finds rfl
      (fun argument shown => written argument (mem_of_mem_shownArguments shown))
      (.place (.inl rfl) misplaced)
  refine ⟨((stored .whereAnd rfl).1 _ _ stops).2, fails, (kept .rawBefore rfl).2 _ fails ?_⟩
  rintro left ⟨-, split, -, mute, -⟩
  rename_i taken rest missing
  have unwritten := written missing (split ▸ List.mem_append_right _ List.mem_cons_self)
  rw [Argument.isWritable, mute] at unwritten
  cases unwritten

/-- Where a text is missing, a call fails although the statement has the method, the number of
arguments fits and none of them is declined. It says that there is no such attribute, and it changes
the statement. -/
theorem leftBy_ne_of_missing :
    withMissing.Reachable ∧ (empty .select .generic).has "where".toList = true ∧
      (Kind.select.arity .whereAnd).fits 2 = true ∧
      (∀ arguments failure, ¬(empty .select .generic).Declines .whereAnd arguments failure) ∧
      (empty .select .generic).call "where".toList
          [.value (.text "x".toList), .statement withMissing] =
        .error (.noAttribute "NoneType" "strip".toList) ∧
      (empty .select .generic).leftBy .whereAnd
          [.value (.text "x".toList), .statement withMissing] ≠ empty .select .generic := by
  refine ⟨reachable_withMissing, rfl, rfl, fun arguments failure declines => ?_, rfl,
    fun same => ?_⟩
  · cases declines with
    | place attaches => rcases attaches with attaches | attaches <;> cases attaches
    | query adds => cases adds
    | operand adds => cases adds
    | statement wants => cases wants
  · have text := congrArg (Statement.render .compact) same
    revert text
    decide

end Statement
end SqlText
