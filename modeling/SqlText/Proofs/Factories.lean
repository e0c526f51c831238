import SqlText.Proofs.Isolation.Basic

/-!
# Factories

A factory makes statements of every kind, each under the factory's own dialect where no other one is
asked for. It takes the arguments of the constructor and hands them on, but for two things: a single
text that does not count, as nothing or a zero, is handed on as the empty text, and where no dialect
is asked for, or null is given for it, its own one is.

So a factory can be dispensed with. A step that makes a statement through it does what the step does
that asks for the same statement itself, of the dialect that was to be (`Step.direct`): the session
after the one step is the session after the other, the answer is the same, be it a text or a
failure, and so are the notes. Whatever steps follow then, they cannot tell the two apart
(`Session.step_create_eq_direct`). A factory's method can also be called by its name, which comes to
the same but for the form of the answer (`Outcome.asCall`).

What carries this is that a request is only looked at as far as its texts count
(`Request.create_counted`), and that exactly the texts that do not count are handed on changed
(`Request.counted_through`).
-/

set_option autoImplicit false

namespace SqlText

/-! ## Asking without a factory -/

/-- How many of the arguments of a new statement are its texts. Another one may be its dialect. -/
def Kind.textCount {α : Type} (kind : Kind) (arguments : List α) : Nat :=
  if kind.takesMany then arguments.length else if kind = .transaction then 0 else 1

section

variable {α : Type} {kind : Kind} {inputs : List α} {last : α} {rest : List α}

/-- Where something stands behind the texts their number is fixed by the kind. -/
theorem Kind.textCount_of_behind (stands : inputs.drop (kind.textCount inputs) = last :: rest)
    (others : List α) : kind.textCount others = kind.textCount inputs := by
  rw [textCount] at stands
  rw [textCount, textCount]
  by_cases many : kind.takesMany = true
  · rw [if_pos many, List.drop_length] at stands
    cases stands
  · rw [if_neg many, if_neg many]

theorem Kind.length_take_of_behind
    (stands : inputs.drop (kind.textCount inputs) = last :: rest) :
    (inputs.take (kind.textCount inputs)).length = kind.textCount inputs := by
  have behind := congrArg List.length stands
  rw [List.length_drop, List.length_cons] at behind
  rw [List.length_take]
  omega

end

/-- The source for a statement of a factory: the one that is asked for or, without a wish, the
factory's dialect. -/
def DialectSource.orOwn (own : Dialect) : DialectSource → DialectSource
  | .default => .dialect own
  | source => source

/-- The same where a step asks for a dialect. A new one is always a wish. -/
def DialectInput.orOwn (own : Dialect) : DialectInput → DialectInput
  | .source wanted => .source (wanted.orOwn own)
  | .custom name features => .custom name features

/-- The step that makes a statement itself which a factory of the given dialect was to make: with
the same arguments, and of the dialect that was asked for. If there was none, or null, it is of the
factory's dialect. -/
def Step.direct (own : Dialect) (name : Text) (kind : Kind) (inputs : List Input) :
    Option DialectInput → Step
  | some given => .create name kind inputs (some (given.orOwn own)) none
  | none =>
      let count := kind.textCount inputs
      -- What stands behind the texts is the dialect that was asked for, if it is not null.
      match inputs.drop count with
      | [] => .create name kind inputs (some (.source (.dialect own))) none
      | .argument (.value .none) :: rest =>
          .create name kind (inputs.take count ++ rest) (some (.source (.dialect own))) none
      | _ => .create name kind inputs none none

theorem Step.direct_of_wish (own : Dialect) (name : Text) {kind : Kind} {inputs rest : List Input}
    {last : Input} (stands : inputs.drop (kind.textCount inputs) = last :: rest)
    (wish : last ≠ .argument (.value .none)) :
    Step.direct own name kind inputs none = .create name kind inputs none none := by
  rw [Step.direct, stands]
  split
  · rename_i nothing
    cases nothing
  · rename_i null
    exact absurd (List.cons.inj null).1 wish
  · rfl

/-! ## The texts that count -/

namespace Request

/-- The request with the texts that count only. -/
def counted (request : Request) : Request := { request with texts := request.given }

theorem given_counted (request : Request) : request.counted.given = request.given := by
  rw [given, counted]
  split
  · rfl
  · rename_i single
    rw [given, if_neg single, List.filter_filter]
    simp only [Bool.and_self]

theorem course_counted (request : Request) (registry : Registry) :
    request.counted.course registry = request.course registry := by
  rw [course, course, given_counted]
  rfl

/-- The texts that do not count make no difference to the new statement. -/
theorem create_counted (request : Request) (registry : Registry) :
    request.counted.create registry = request.create registry := by
  have same (dialect : Dialect) :
      request.counted.statement dialect = request.statement dialect := by
    rw [statement, statement, given_counted]
    rfl
  simp only [create, course_counted, same]
  rfl

theorem events_counted (request : Request) (registry : Registry) :
    request.counted.events registry = request.events registry := by
  rw [events, events, course_counted]
  rfl

/-- A text that does not count still does not when it is handed on as the empty one. -/
theorem filter_holds_map_emptied (texts : List Argument) :
    (texts.map fun text => if text.holds then text else .value (.text [])).filter Argument.holds =
      texts.filter Argument.holds := by
  induction texts with
  | nil => rfl
  | cons text texts ih =>
      rw [List.map_cons]
      cases counts : text.holds with
      | false =>
          have dropped : (Argument.value (.text [])).holds = false := rfl
          rw [if_neg Bool.false_ne_true, List.filter_cons_of_neg (by simp [dropped]), ih,
            List.filter_cons_of_neg (by simp [counts])]
      | true => rw [if_pos rfl, List.filter_cons_of_pos counts, ih, List.filter_cons_of_pos counts]

/-- A factory hands on the texts that count, and its own dialect where none is asked for. -/
theorem counted_through (request : Request) (own : Dialect) :
    (request.through own).counted =
      { request.counted with dialect := request.dialect.orOwn own } := by
  have texts : (request.through own).given = request.given := by
    rw [given, given, through]
    by_cases many : request.kind.takesMany = true
    · simp only [many, if_true]
    · simp only [many, if_false, Bool.false_eq_true, filter_holds_map_emptied]
  have source : (request.through own).dialect = request.dialect.orOwn own := by
    rw [through]
    cases request.dialect <;> rfl
  rw [counted, counted, texts, source]
  rfl

/-! ## What is asked for through a factory -/

/-- The request for a statement of the given texts. Its dialect is named apart from them or stands
behind them, but not both. -/
def ofParts (kind : Kind) (texts behind : List Argument) (dialect : Option DialectSource) :
    Except Failure Request :=
  match behind, dialect with
  | [], dialect => .ok { kind, texts, dialect := dialect.getD .default }
  | [last], none =>
      .ok
        { kind
          texts
          dialect := .ofArgument last
          dialectCourse := last.course ++ last.course }
  | _, _ => .error .badArguments

theorem ofArguments_eq_ofParts (kind : Kind) (arguments : List Argument)
    (dialect : Option DialectSource) :
    ofArguments kind arguments dialect =
      ofParts kind (arguments.take (kind.textCount arguments))
        (arguments.drop (kind.textCount arguments)) dialect :=
  rfl

/-- The same request as a factory passes it on. -/
def ofPartsThrough (own : Dialect) (kind : Kind) (texts behind : List Argument)
    (dialect : Option DialectSource) : Except Failure Request :=
  (through · own) <$> ofParts kind texts behind dialect

theorem ofFactory_eq_ofPartsThrough (own : Dialect) (kind : Kind) (arguments : List Argument)
    (dialect : Option DialectSource) :
    ofFactory (some own) kind arguments dialect =
      ofPartsThrough own kind (arguments.take (kind.textCount arguments))
        (arguments.drop (kind.textCount arguments)) dialect := by
  rw [ofFactory, ofArguments_eq_ofParts, ofPartsThrough]
  cases ofParts kind _ _ dialect <;> rfl

section Through

variable (own : Dialect) (kind : Kind) (texts : List Argument)

/-- What is asked for apart from the texts goes before the factory's dialect, unless it is no wish
at all. -/
theorem counted_ofPartsThrough_some (behind : List Argument) (source : DialectSource) :
    counted <$> ofPartsThrough own kind texts behind (some source) =
      counted <$> ofParts kind texts behind (some (source.orOwn own)) := by
  cases behind with
  | nil => exact congrArg Except.ok (counted_through _ own)
  | cons last rest => cases rest <;> rfl

/-- Without a wish the factory's dialect is asked for. -/
theorem counted_ofPartsThrough_nil :
    counted <$> ofPartsThrough own kind texts [] none =
      counted <$> ofParts kind texts [] (some (.dialect own)) :=
  congrArg Except.ok (counted_through _ own)

/-- So it is where null stands behind the texts. -/
theorem counted_ofPartsThrough_null (rest : List Argument) :
    counted <$> ofPartsThrough own kind texts (.value .none :: rest) none =
      counted <$> ofParts kind texts rest (some (.dialect own)) := by
  cases rest with
  | nil => exact congrArg Except.ok (counted_through _ own)
  | cons other rest => cases rest <;> rfl

/-- Anything else that stands there is asked for as it is. -/
theorem counted_ofPartsThrough_cons (last : Argument) (rest : List Argument)
    (wish : last ≠ .value .none) :
    counted <$> ofPartsThrough own kind texts (last :: rest) none =
      counted <$> ofParts kind texts (last :: rest) none := by
  have asked : (DialectSource.ofArgument last).orOwn own = .ofArgument last := by
    cases last with
    | value plain =>
        cases plain with
        | none => exact absurd rfl wish
        | _ => rfl
    | _ => rfl
  cases rest with
  | nil =>
      refine congrArg Except.ok ((counted_through _ own).trans ?_)
      rw [asked]
      rfl
  | cons other rest => rfl

end Through

end Request

/-! ## Steps through a factory -/

/-- The answer to the call that makes a statement, where the answer to a step is given. -/
def Answer.asCall : Answer → Answer
  | .created shown _ => .called shown false
  | answer => answer

/-- The end of the call that makes a statement, where the end of a step is given. -/
def Outcome.asCall (outcome : Outcome) : Outcome :=
  { outcome with answer := Answer.asCall <$> outcome.answer }

namespace Session

/-- Requests that agree in the texts that count are met in the same way. -/
theorem createFrom_congr (session : Session) (quiet : Bool) (name : Text)
    {asked other : Except Failure Request}
    (same : Request.counted <$> asked = Request.counted <$> other) :
    session.createFrom quiet name asked = session.createFrom quiet name other := by
  cases asked with
  | error failure =>
      cases other with
      | error failure' =>
          cases same
          rfl
      | ok request => cases same
  | ok request =>
      cases other with
      | error failure => cases same
      | ok request' =>
          have agree : request.counted = request'.counted := Except.ok.inj same
          have created : request.create session.registry = request'.create session.registry := by
            rw [← Request.create_counted request, agree, Request.create_counted]
          have noted : request.events session.registry = request'.events session.registry := by
            rw [← Request.events_counted request, agree, Request.events_counted]
          simp only [createFrom, created, noted]

theorem resolveAll_append (session : Session) (front back : List Input) :
    session.resolveAll (front ++ back) = (do
      let before ← session.resolveAll front
      let behind ← session.resolveAll back
      pure (before ++ behind)) := by
  induction front with
  | nil =>
      change _ = (do let behind ← session.resolveAll back; pure ([] ++ behind))
      simp only [List.nil_append, bind_pure]
  | cons input front ih =>
      simp only [List.cons_append, resolveAll, ih, bind_assoc, pure_bind]

theorem length_resolveAll {session : Session} {inputs : List Input} {arguments : List Argument}
    (resolved : session.resolveAll inputs = .ok arguments) : arguments.length = inputs.length := by
  induction inputs generalizing arguments with
  | nil =>
      cases resolved
      rfl
  | cons input inputs ih =>
      obtain ⟨argument, -, resolved⟩ := bind_eq_ok.mp resolved
      obtain ⟨rest, others, resolved⟩ := bind_eq_ok.mp resolved
      cases resolved
      rw [List.length_cons, List.length_cons, ih others]

/-- What stands behind the texts is null only where null is given. -/
theorem ne_null_of_resolve {session : Session} {input : Input} {argument : Argument}
    (given : input ≠ .argument (.value .none)) (resolved : session.resolve input = .ok argument) :
    argument ≠ .value .none := by
  cases input with
  | argument plain =>
      cases resolved
      exact fun null => given (congrArg Input.argument null)
  | reference name =>
      obtain ⟨⟨place, object⟩, -, resolved⟩ := bind_eq_ok.mp resolved
      cases resolved
      cases object <;> simp [Object.argument]
  | member path =>
      obtain ⟨entry, -, resolved⟩ := bind_eq_ok.mp resolved
      cases resolved
      simp
  | command keyword given =>
      obtain ⟨kind, -, resolved⟩ := bind_eq_ok.mp resolved
      cases resolved
      simp

/-- The request that the inputs of a step amount to, those for the texts and those behind them. -/
def requested (session : Session) (texts behind : List Input) (dialect : Option DialectInput)
    (request : List Argument → List Argument → Option DialectSource → Except Failure Request) :
    Except Failure Request := do
  let texts ← session.resolveAll texts
  let behind ← session.resolveAll behind
  let source ← dialect.mapM DialectInput.toSource
  request texts behind source

/-- Looking inputs up in two parts keeps the place between the parts. -/
theorem parted_texts (session : Session) (inputs : List Input) (count : Nat)
    {texts behind : List Argument} (front : session.resolveAll (inputs.take count) = .ok texts)
    (back : session.resolveAll (inputs.drop count) = .ok behind) :
    (texts ++ behind).take count = texts ∧ (texts ++ behind).drop count = behind := by
  have before := length_resolveAll front
  have after := length_resolveAll back
  rw [List.length_take] at before
  rw [List.length_drop] at after
  rcases Nat.le_total count inputs.length with enough | few
  · have full : texts.length = count := by omega
    exact ⟨List.take_left' full, List.drop_left' full⟩
  · have nothing : behind = [] := List.length_eq_zero_iff.mp (by omega)
    have short : texts.length ≤ count := by omega
    rw [nothing, List.append_nil]
    exact ⟨List.take_of_length_le short, List.drop_of_length_le short⟩

/-- The texts and what stands behind them can be told before the inputs are looked up. -/
theorem requested_take_drop (session : Session) (kind : Kind) (inputs : List Input)
    (dialect : Option DialectInput)
    (request : List Argument → List Argument → Option DialectSource → Except Failure Request) :
    (do
      let arguments ← session.resolveAll inputs
      let source ← dialect.mapM DialectInput.toSource
      request (arguments.take (kind.textCount arguments))
        (arguments.drop (kind.textCount arguments)) source) =
      session.requested (inputs.take (kind.textCount inputs))
        (inputs.drop (kind.textCount inputs)) dialect request := by
  have parted := session.resolveAll_append (inputs.take (kind.textCount inputs))
    (inputs.drop (kind.textCount inputs))
  rw [List.take_append_drop] at parted
  rw [requested]
  cases front : session.resolveAll (inputs.take (kind.textCount inputs)) with
  | error failure =>
      rw [parted, front]
      rfl
  | ok texts =>
      cases back : session.resolveAll (inputs.drop (kind.textCount inputs)) with
      | error failure =>
          rw [parted, front, back]
          rfl
      | ok behind =>
          rw [front, back] at parted
          have resolved : session.resolveAll inputs = .ok (texts ++ behind) := parted
          have count : kind.textCount (texts ++ behind) = kind.textCount inputs := by
            rw [Kind.textCount, Kind.textCount, length_resolveAll resolved]
          obtain ⟨front, back⟩ := parted_texts session inputs (kind.textCount inputs) front back
          rw [resolved]
          change (do
            let source ← dialect.mapM DialectInput.toSource
            request ((texts ++ behind).take _) ((texts ++ behind).drop _) source) = (do
            let source ← dialect.mapM DialectInput.toSource
            request texts behind source)
          rw [count, front, back]

theorem toSource_orOwn (own : Dialect) (given : DialectInput) :
    (given.orOwn own).toSource = (·.orOwn own) <$> given.toSource := by
  cases given with
  | source wanted => rfl
  | custom name features =>
      rw [DialectInput.orOwn, DialectInput.toSource]
      cases Dialect.ofNames name features <;> rfl

section

variable (session : Session) (quiet : Bool) (name : Text) (own : Dialect) (kind : Kind)

theorem createFrom_requested_congr {texts behind other : List Input}
    {dialect wanted : Option DialectInput}
    {request direct : List Argument → List Argument → Option DialectSource → Except Failure Request}
    (same : ∀ texts,
      Request.counted <$> (do
          let behind ← session.resolveAll behind
          let source ← dialect.mapM DialectInput.toSource
          request texts behind source) =
        Request.counted <$> (do
          let behind ← session.resolveAll other
          let source ← wanted.mapM DialectInput.toSource
          direct texts behind source)) :
    session.createFrom quiet name (session.requested texts behind dialect request) =
      session.createFrom quiet name (session.requested texts other wanted direct) := by
  refine createFrom_congr session quiet name ?_
  simp only [requested, map_bind] at same ⊢
  exact bind_congr same

/-! One lemma for each way to ask a factory for a dialect. -/

theorem createFrom_ofPartsThrough_some (texts behind : List Input) (given : DialectInput) :
    session.createFrom quiet name
        (session.requested texts behind (some given) (Request.ofPartsThrough own kind)) =
      session.createFrom quiet name
        (session.requested texts behind (some (given.orOwn own)) (Request.ofParts kind)) := by
  refine createFrom_requested_congr session quiet name fun texts => ?_
  refine (map_bind ..).trans (Eq.trans (bind_congr fun behind => ?_) (map_bind ..).symm)
  change _ = Request.counted <$> (do
    let source ← some <$> (given.orOwn own).toSource
    Request.ofParts kind texts behind source)
  rw [toSource_orOwn]
  change Request.counted <$> (do
    let source ← some <$> given.toSource
    Request.ofPartsThrough own kind texts behind source) = _
  cases given.toSource with
  | error failure => rfl
  | ok source => exact Request.counted_ofPartsThrough_some own kind texts behind source

theorem createFrom_ofPartsThrough_nil (texts : List Input) :
    session.createFrom quiet name
        (session.requested texts [] none (Request.ofPartsThrough own kind)) =
      session.createFrom quiet name
        (session.requested texts [] (some (.source (.dialect own))) (Request.ofParts kind)) :=
  createFrom_requested_congr session quiet name (Request.counted_ofPartsThrough_nil own kind)

theorem createFrom_ofPartsThrough_null (texts rest : List Input) :
    session.createFrom quiet name
        (session.requested texts (.argument (.value .none) :: rest) none
          (Request.ofPartsThrough own kind)) =
      session.createFrom quiet name
        (session.requested texts rest (some (.source (.dialect own))) (Request.ofParts kind)) := by
  refine createFrom_requested_congr session quiet name fun texts => ?_
  change Request.counted <$> (do
    let behind ← (do
      let rest ← session.resolveAll rest
      pure (Argument.value .none :: rest))
    Request.ofPartsThrough own kind texts behind none) = _
  cases session.resolveAll rest with
  | error failure => rfl
  | ok behind => exact Request.counted_ofPartsThrough_null own kind texts behind

theorem createFrom_ofPartsThrough_cons (texts : List Input) {last : Input} (rest : List Input)
    (wish : last ≠ .argument (.value .none)) :
    session.createFrom quiet name
        (session.requested texts (last :: rest) none (Request.ofPartsThrough own kind)) =
      session.createFrom quiet name
        (session.requested texts (last :: rest) none (Request.ofParts kind)) := by
  refine createFrom_requested_congr session quiet name fun texts => ?_
  cases resolved : session.resolve last with
  | error failure =>
      rw [resolveAll, resolved]
      rfl
  | ok argument =>
      rw [resolveAll, resolved]
      cases session.resolveAll rest with
      | error failure => rfl
      | ok behind =>
          exact Request.counted_ofPartsThrough_cons own kind texts argument behind
            (ne_null_of_resolve wish resolved)

/-! ## Steps that make a statement -/

variable (inputs : List Input) (dialect : Option DialectInput)

theorem create_none_eq :
    session.create quiet name kind inputs dialect none =
      session.createFrom quiet name
        (session.requested (inputs.take (kind.textCount inputs))
          (inputs.drop (kind.textCount inputs)) dialect (Request.ofParts kind)) := by
  rw [← requested_take_drop, create]
  cases session.resolveAll inputs with
  | error failure => rfl
  | ok arguments => cases dialect.mapM DialectInput.toSource <;> rfl

/-- The request that a factory of the given dialect makes of the inputs of a step. -/
def requestThrough : Except Failure Request := do
  let arguments ← session.resolveAll inputs
  let source ← dialect.mapM DialectInput.toSource
  Request.ofFactory (some own) kind arguments source

/-- What comes of the request that a factory makes is what comes of the step that does without
it. -/
theorem createFrom_requestThrough :
    session.createFrom quiet name (session.requestThrough own kind inputs dialect) =
      session.step quiet (.direct own name kind inputs dialect) := by
  have parted : session.requestThrough own kind inputs dialect =
      session.requested (inputs.take (kind.textCount inputs))
        (inputs.drop (kind.textCount inputs)) dialect (Request.ofPartsThrough own kind) := by
    simp only [requestThrough, Request.ofFactory_eq_ofPartsThrough, requested_take_drop]
  rw [parted]
  cases dialect with
  | some given =>
      change _ = session.create quiet name kind inputs _ none
      rw [create_none_eq, createFrom_ofPartsThrough_some]
  | none =>
      cases stands : inputs.drop (kind.textCount inputs) with
      | nil =>
          rw [Step.direct, stands]
          change _ = session.create quiet name kind inputs _ none
          rw [create_none_eq, stands, createFrom_ofPartsThrough_nil]
      | cons last rest =>
          by_cases null : last = .argument (.value .none)
          · subst null
            have count := Kind.textCount_of_behind stands
              (inputs.take (kind.textCount inputs) ++ rest)
            have many := Kind.length_take_of_behind stands
            rw [Step.direct, stands]
            change _ = session.create quiet name kind
              (inputs.take (kind.textCount inputs) ++ rest) _ none
            rw [create_none_eq, count, List.take_left' many, List.drop_left' many,
              createFrom_ofPartsThrough_null]
          · rw [Step.direct_of_wish own name stands null]
            change _ = session.create quiet name kind inputs none none
            rw [create_none_eq, stands, createFrom_ofPartsThrough_cons _ _ _ _ _ _ _ null]

end

/-! ## Factories of a session -/

/-- The session has a factory of the given name and dialect. Its own one goes before any other that
has its name. -/
def Makes (session : Session) (maker : Text) (own : Dialect) : Prop :=
  maker = ownFactory ∧ own = .generic ∨
    maker ≠ ownFactory ∧ ∃ place, session.find? maker = some (place, .factory (some own))

/-- A factory that has been made is there by its name, and makes statements of the dialect it was
made for. -/
theorem makes_makeFactory (session : Session) {maker : Text} {dialect : DialectInput}
    {source : DialectSource} {own : Dialect} {detour : Option Text} (other : maker ≠ ownFactory)
    (asked : dialect.toSource = .ok source)
    (resolved : source.resolve session.registry = .ok ⟨own, detour⟩) :
    (session.makeFactory maker dialect).session.Makes maker own := by
  refine .inr ⟨other, session.objects.length, ?_⟩
  simp only [makeFactory, asked, resolved]
  exact find?_eq_some.mpr ⟨List.lookup_cons_self, List.getElem?_concat_length⟩

theorem asCall_answers (session : Session) (quiet : Bool) (statement : Statement)
    (dialect : Value) (events : List Event) :
    (session.answers quiet statement (.created · dialect) events).asCall =
      session.answers quiet statement (.called · false) events := by
  cases quiet with
  | true => rfl
  | false =>
      simp only [answers, Bool.false_eq_true, if_false, Outcome.asCall, Course.result]
      cases (statement.course .compact).failure? <;> rfl

section

variable {session : Session} {maker : Text} {own : Dialect} (quiet : Bool) (name : Text)
  (kind : Kind) (inputs : List Input)

theorem create_some_eq (makes : session.Makes maker own) (dialect : Option DialectInput) :
    session.create quiet name kind inputs dialect (some maker) =
      session.createFrom quiet name (session.requestThrough own kind inputs dialect) := by
  rw [create, requestThrough]
  cases session.resolveAll inputs with
  | error failure => rfl
  | ok arguments =>
      cases dialect.mapM DialectInput.toSource with
      | error failure => rfl
      | ok source =>
          obtain ⟨rfl, rfl⟩ | ⟨other, place, found⟩ := makes
          · rfl
          · simp only [other, if_false, found]
            rfl

/-- A call of a factory's method asks for the same statement. Only the answer names no dialect. -/
theorem call_factory_eq {place : Nat}
    (found : session.find? maker = some (place, .factory (some own))) :
    session.call quiet maker (.text kind.factoryMethod.toList) inputs (some name) =
      (session.createFrom quiet name (session.requestThrough own kind inputs none)).asCall := by
  have skilled : (Object.factory (some own)).skill? kind.factoryMethod.toList =
      some (.make kind) := by
    cases kind <;> rfl
  simp only [call, found, callObject, skilled, requestThrough]
  cases session.resolveAll inputs with
  | error failure => rfl
  | ok arguments =>
      change _ =
        (session.createFrom quiet name (Request.ofFactory (some own) kind arguments none)).asCall
      simp only [Object.apply]
      cases Request.ofFactory (some own) kind arguments none with
      | error failure => rfl
      | ok request =>
          simp only [createFrom]
          cases request.create session.registry with
          | error failure => rfl
          | ok statement =>
              exact (asCall_answers (session.add (some name) (.statement statement)) quiet
                statement _ _).symm

/-- A step that makes a statement through a factory ends as the step does that makes the statement
itself, with the same arguments and of the dialect that was asked for or, without a wish, of the
factory's one. Both have the same answer or fail in the same way, note the same, and leave the
session the same, so that whatever steps follow are answered alike. The call of the factory's method
ends like that too. -/
theorem step_create_eq_direct (makes : session.Makes maker own) (dialect : Option DialectInput) :
    session.step quiet (.create name kind inputs dialect (some maker)) =
        session.step quiet (.direct own name kind inputs dialect) ∧
      (∀ later : List Step,
        session.run quiet (.create name kind inputs dialect (some maker) :: later) =
          session.run quiet (.direct own name kind inputs dialect :: later)) ∧
      ∀ place, session.find? maker = some (place, .factory (some own)) →
        session.step quiet
            (.call maker (.text kind.factoryMethod.toList) inputs (some name)) =
          (session.step quiet (.direct own name kind inputs none)).asCall := by
  have same : session.step quiet (.create name kind inputs dialect (some maker)) =
      session.step quiet (.direct own name kind inputs dialect) :=
    (create_some_eq quiet name kind inputs makes dialect).trans
      (createFrom_requestThrough session quiet name own kind inputs dialect)
  refine ⟨same, fun later => ?_, fun place found => ?_⟩
  · rw [run, run, same]
  · refine (call_factory_eq quiet name kind inputs found).trans ?_
    rw [createFrom_requestThrough]

end

/-- A factory makes a statement of a zero, with null for its dialect: the statement is of the
factory's dialect, and has no target before it is given one. -/
theorem step_create_eq_direct_of_zero :
    let session := (start.step false
      (.makeFactory "f".toList (.source (.dialect .mysql)))).session
    let zero : Input := .argument (.value (.int 0))
    let null : Input := .argument (.value .none)
    let direct : Step :=
      .create "s".toList .insert [zero] (some (.source (.dialect .mysql))) none
    session.Makes "f".toList .mysql ∧
      session.step false (.create "s".toList .insert [zero, null] none (some "f".toList)) =
        session.step false direct ∧
      (session.run false
        [.create "s".toList .insert [zero, null] none (some "f".toList),
          .call "s".toList (.text "insert_into".toList)
            [.argument (.value (.text "t".toList))] none]).1 =
        [.ok (.created (some []) (.text "mysql".toList)),
          .ok (.called (some "INSERT INTO t".toList) true)] ∧
      session.step false (.call "f".toList (.text "insert".toList) [zero, null]
          (some "s".toList)) =
        (session.step false direct).asCall := by
  have other : "f".toList ≠ ownFactory := by decide
  have makes : (start.makeFactory "f".toList (.source (.dialect .mysql))).session.Makes
      "f".toList .mysql :=
    start.makes_makeFactory other rfl rfl
  obtain ⟨step, run, call⟩ := step_create_eq_direct false "s".toList .insert
    [.argument (.value (.int 0)), .argument (.value .none)] makes none
  exact ⟨makes, step, (congrArg Prod.fst (run _)).trans rfl, call 0 rfl⟩

end Session
end SqlText
