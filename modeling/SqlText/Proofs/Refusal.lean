import SqlText.Proofs.Calls
import SqlText.Proofs.Trimming
import SqlText.Proofs.Writing

/-!
# Why a call is refused

A call is refused for one of nine reasons (`Statement.Refuses`), which rule each other out in the
order in which they are looked for. The statement has no method of the name, or not under its
dialect; the arguments do not fit in number; a text that is asked for cannot be given; raw text is
given for a clause of another enumeration, for no clause at all, or for one that the dialect lacks;
what is given to put inside the statement cannot stand inside any, or is not a statement of the kind
that is wanted there.

These are all the reasons there are (`Statement.refuses_iff`). Calls that write the statement itself
are left aside: they need its own text.

A clause can be named by its value or by its name. Only the name is looked up, since whatever is
found by its value is found by its name (`Kind.clause?_of_clauseOfValue?`).
-/

set_option autoImplicit false

namespace SqlText

/-! ## Clauses by name and by value -/

/-- The characters that the values of clauses are made of: small letters and underscores. -/
def Clause.IsLetter (c : Char) : Prop := (97 ≤ c.toNat ∧ c.toNat < 123) ∨ c = '_'

instance (c : Char) : Decidable (Clause.IsLetter c) :=
  inferInstanceAs (Decidable ((97 ≤ c.toNat ∧ c.toNat < 123) ∨ c = '_'))

/-- A text of such letters only. -/
def Clause.IsWord (text : Text) : Prop := ∀ c ∈ text, IsLetter c

instance (text : Text) : Decidable (Clause.IsWord text) :=
  List.decidableBAll Clause.IsLetter text

theorem Clause.isWord_name (clause : Clause) : IsWord clause.name.toList := by
  cases clause <;> decide +kernel

/-- On these letters the full mapping to upper case is the one of single characters. -/
theorem Clause.upperChar_of_isLetter {c : Char} (letter : IsLetter c) :
    Text.isBlank c = false ∧ Text.upperChar c = [c.toUpper] ∧ c.toUpper ≠ ' ' := by
  have small : ∀ code < 123, 97 ≤ code →
      Text.isBlank (Char.ofNat code) = false ∧
        Text.upperChar (Char.ofNat code) = [(Char.ofNat code).toUpper] ∧
          (Char.ofNat code).toUpper ≠ ' ' := by
    decide +kernel
  rcases letter with ⟨above, below⟩ | rfl
  · simpa only [Char.ofNat_toNat] using small c.toNat below above
  · decide +kernel

namespace Kind

theorem mem_all (kind : Kind) : kind ∈ all := by
  cases kind <;> decide

/-- No two clauses of a kind have one name, so that each is found by its own. -/
theorem find?_upperName : ∀ kind ∈ all, ∀ clause ∈ kind.clauses,
    kind.clauses.find? (·.upperName = clause.upperName) = some clause := by
  decide

/-- A word is looked up in upper case, letter by letter. -/
theorem clauseKey_of_isWord {text : Text} (word : Clause.IsWord text) :
    clauseKey text = text.map Char.toUpper := by
  have visible : ∀ c ∈ text, Text.isBlank c = false := fun c member =>
    (Clause.upperChar_of_isLetter (word c member)).1
  rw [clauseKey, Text.trim_of_visible visible, Text.upper]
  clear visible
  induction text with
  | nil => rfl
  | cons first rest ih =>
      obtain ⟨-, upper, other⟩ := Clause.upperChar_of_isLetter (word first List.mem_cons_self)
      have tail := ih fun c member => word c (List.mem_cons_of_mem _ member)
      rw [List.flatMap_cons, upper, List.singleton_append, List.map_cons, if_neg other, tail,
        List.map_cons]

/-- The value of a clause is looked up as its name. -/
theorem clauseKey_name (clause : Clause) : clauseKey clause.name.toList = clause.upperName :=
  clauseKey_of_isWord clause.isWord_name

/-- A clause is found by a text when it is one of the kind's clauses and the text is looked up as
its name. -/
theorem clause?_eq_some {kind : Kind} {name : Text} {clause : Clause} :
    kind.clause? name = some clause ↔
      clause ∈ kind.clauses ∧ clause.upperName = clauseKey name := by
  constructor
  · intro found
    refine ⟨Statement.mem_clauses_of_clause? found, ?_⟩
    simpa using List.find?_some found
  · rintro ⟨among, same⟩
    rw [clause?, ← same]
    exact find?_upperName kind kind.mem_all clause among

theorem clause?_eq_none {kind : Kind} {name : Text} :
    kind.clause? name = none ↔ ∀ clause ∈ kind.clauses, clause.upperName ≠ clauseKey name := by
  simp [clause?]

/-- The kind's clause of the given value. -/
def clauseOfValue? (kind : Kind) (text : Text) : Option Clause :=
  kind.clauses.find? (·.name.toList = text)

/-- What is found by its value is found by its name. -/
theorem clause?_of_clauseOfValue? {kind : Kind} {text : Text} {clause : Clause}
    (found : kind.clauseOfValue? text = some clause) : kind.clause? text = some clause := by
  have among : clause ∈ kind.clauses := List.mem_of_find?_eq_some found
  have same : clause.name.toList = text := by simpa using List.find?_some found
  rw [clause?_eq_some, ← same]
  exact ⟨among, (clauseKey_name clause).symm⟩

/-- The kind of the statement that a method puts inside a statement of the kind. -/
def wanted? : Kind → Method → Option Kind
  | insert, .select => some .select
  | transaction, method => method.entryKind?
  | _, _ => none

/-- Only a SELECT has set operations. -/
theorem eq_select_of_operation? {kind : Kind} {method : Method} {operation : SetOperation}
    (adds : method.operation? = some operation) (present : kind.access method ≠ .absent) :
    kind = select := by
  cases method with
  | union | intersect | except =>
      cases kind with
      | select => rfl
      | insert | update | delete | values | createTable | dropTable | dropIndex | createIndex
      | alterTable | transaction => exact absurd rfl present
  | _ => cases adds

end Kind

/-- Whether a method writes the text of the statement that it is called on. -/
def Method.writes : Method → Bool
  | .render | .toText | .quote | .print | .debug => true
  | _ => false

/-! ## What an argument names and what it can be -/

/-- The clause of a kind that an argument names. A member of the kind's enumeration names itself,
and what is no member of any names the clause whose name it is shown as. -/
inductive Argument.Names (kind : Kind) : Argument → Clause → Prop where
  | member (clause : Clause) : Names kind (.member (.clause kind clause)) clause
  | shown {place : Argument} {clause : Clause} (plain : ∀ entry, place ≠ .member entry)
      (among : clause ∈ kind.clauses) (same : clause.upperName = Kind.clauseKey place.shown) :
      Names kind place clause

theorem Argument.names_of_clauseOfValue? {kind : Kind} {text : Text} {clause : Clause}
    (found : kind.clauseOfValue? text = some clause) :
    Argument.Names kind (.value (.text text)) clause := by
  obtain ⟨among, same⟩ := Kind.clause?_eq_some.mp (Kind.clause?_of_clauseOfValue? found)
  refine .shown (fun entry plain => ?_) among same
  cases plain

theorem Argument.operand_eq_error {argument : Argument} {host : Kind} {failure : Failure} :
    argument.operand host = .error failure ↔
      argument.operand? = none ∧ failure = .notEmbeddable host argument.typeName := by
  rw [Argument.operand]
  cases argument.operand? with
  | none =>
      constructor
      · intro fails
        cases fails
        exact ⟨rfl, rfl⟩
      · rintro ⟨-, rfl⟩
        rfl
  | some operand =>
      constructor
      · intro fails
        cases fails
      · rintro ⟨missing, -⟩
        cases missing

theorem Argument.statementOf_eq_error {argument : Argument} {wanted host : Kind}
    {failure : Failure} :
    argument.statementOf wanted host = .error failure ↔
      (∀ inner, argument = .statement inner → inner.kind ≠ wanted) ∧
        failure = .notEmbeddable host argument.typeName := by
  cases argument with
  | statement other =>
      rw [Argument.statementOf]
      by_cases fits : other.kind = wanted
      · rw [if_pos fits]
        constructor
        · intro fails
          cases fails
        · rintro ⟨others, -⟩
          exact absurd fits (others other rfl)
      · rw [if_neg fits]
        constructor
        · intro fails
          cases fails
          refine ⟨fun inner same => ?_, rfl⟩
          cases same
          exact fits
        · rintro ⟨-, rfl⟩
          rfl
  | value | member | command | fixed | other =>
      constructor
      · intro fails
        cases fails
        refine ⟨fun inner same => ?_, rfl⟩
        cases same
      · rintro ⟨-, rfl⟩
        rfl

namespace Statement

variable {statement : Statement} {name : Text} {arguments : List Argument}

/-! ## The reasons -/

/-- The statement has the method under its dialect, and it goes by the name. -/
structure Finds (statement : Statement) (name : Text) (method : Method) : Prop
    extends Offers statement.kind statement.dialect method where
  named : Method.ofName? name = some method

/-- The reasons for which a statement has no method of the name. -/
inductive Lacks (statement : Statement) (name : Text) : Failure → Prop where
  | unknown (unnamed : Method.ofName? name = none) :
      Lacks statement name (.noAttribute statement.kind.name name)
  | absent {method : Method} (named : Method.ofName? name = some method)
      (missing : statement.kind.access method = .absent) :
      Lacks statement name (.noAttribute statement.kind.name name)
  | gated {method : Method} {feature : Feature} (named : Method.ofName? name = some method)
      (needs : statement.kind.access method = .gated feature)
      (unsupported : statement.dialect.supports feature = false) :
      Lacks statement name (.gatedMethod statement.kind name statement.dialect.name.quoted)

/-- The reasons for which an argument gives no clause of the statement to attach raw text to. -/
inductive Misplaces (statement : Statement) : Argument → Failure → Prop where
  | foreign {entry : Member} (other : ∀ clause, entry ≠ .clause statement.kind clause) :
      Misplaces statement (.member entry) (.foreignClause statement.kind entry.path)
  | unknown {place : Argument} (plain : ∀ entry, place ≠ .member entry)
      (unmatched : ∀ clause ∈ statement.kind.clauses,
        clause.upperName ≠ Kind.clauseKey place.shown) :
      Misplaces statement place (.unknownClause statement.kind place.quoted)
  | gated {place : Argument} {clause : Clause} {feature : Feature}
      (named : Argument.Names statement.kind place clause)
      (needs : statement.kind.gate clause = some feature)
      (unsupported : statement.dialect.supports feature = false) :
      Misplaces statement place
        (.missingFeature feature statement.dialect.name.quoted)

/-- The reasons for which a method that the statement has refuses arguments that fit in number. -/
inductive Declines (statement : Statement) (method : Method) :
    List Argument → Failure → Prop where
  | place {place : Argument} {texts : List Argument} {failure : Failure}
      (attaches : method = .rawBefore ∨ method = .rawAfter)
      (misplaced : statement.Misplaces place failure) :
      Declines statement method (place :: texts) failure
  | query {named query : Argument} (adds : method = .withQuery) (other : query.operand? = none) :
      Declines statement method [named, query]
        (.notEmbeddable statement.kind query.typeName)
  | operand {operation : SetOperation} {operand : Argument}
      (adds : method.operation? = some operation) (other : operand.operand? = none) :
      Declines statement method [operand] (.notEmbeddable statement.kind operand.typeName)
  | statement {wanted : Kind} {argument : Argument}
      (wants : statement.kind.wanted? method = some wanted)
      (other : ∀ inner, argument = .statement inner → inner.kind ≠ wanted) :
      Declines statement method [argument]
        (.notEmbeddable statement.kind argument.typeName)

/-- A text that is asked for in the call of a method cannot be given: it is the first one of which
this is so, and is missing for the failure. -/
inductive Misses (statement : Statement) (method : Method) (arguments : List Argument) :
    Failure → Prop where
  | intro {asked rest : List Argument} {missing : Argument} {failure : Failure}
      (shown : statement.shownArguments method arguments = asked ++ missing :: rest)
      (written : ∀ argument ∈ asked, argument.isWritable = true)
      (mute : missing.course.failure? = some failure) :
      Misses statement method arguments failure

/-- The reasons for which a statement refuses the call of a name with some arguments. A later one
is a reason where the earlier ones are none. -/
inductive Refuses (statement : Statement) (name : Text) (arguments : List Argument) :
    Failure → Prop where
  | method {failure : Failure} (lacks : statement.Lacks name failure) :
      Refuses statement name arguments failure
  | count {method : Method} (found : statement.Finds name method)
      (misfits : (statement.kind.arity method).fits arguments.length = false) :
      Refuses statement name arguments .badArguments
  | text {method : Method} {failure : Failure} (found : statement.Finds name method)
      (fits : (statement.kind.arity method).fits arguments.length = true)
      (misses : statement.Misses method arguments failure) :
      Refuses statement name arguments failure
  | argument {method : Method} {failure : Failure} (found : statement.Finds name method)
      (fits : (statement.kind.arity method).fits arguments.length = true)
      (written : ∀ argument ∈ statement.shownArguments method arguments,
        argument.isWritable = true)
      (declines : statement.Declines method arguments failure) :
      Refuses statement name arguments failure

/-! ## Methods that are found -/

theorem method_eq_ok_iff {method : Method} :
    statement.method name = .ok method ↔ statement.Finds name method := by
  constructor
  · intro found
    obtain ⟨named, present, supported⟩ := method_eq_ok found
    exact ⟨⟨present, supported⟩, named⟩
  · rintro ⟨⟨present, supported⟩, named⟩
    simp only [Statement.method, named]
    cases access : statement.kind.access method with
    | absent => exact absurd access present
    | always => rfl
    | gated feature => simp only [supported feature access, if_true]

theorem method_eq_error {failure : Failure} :
    statement.method name = .error failure ↔ statement.Lacks name failure := by
  constructor
  · intro fails
    rw [Statement.method] at fails
    split at fails
    · cases fails
      exact .unknown (by assumption)
    · rename_i method named
      split at fails
      · cases fails
        exact .absent named (by assumption)
      · cases fails
      · rename_i feature needs
        split at fails
        · cases fails
        · rename_i unsupported
          cases fails
          exact .gated named needs (by simpa using unsupported)
  · intro lacks
    cases lacks with
    | unknown unnamed => simp only [Statement.method, unnamed]
    | absent named missing => simp only [Statement.method, named, missing]
    | gated named needs unsupported =>
        simp only [Statement.method, named, needs, unsupported, Bool.false_eq_true, if_false]

/-- A statement is said to have a method exactly when there is no reason why it has none. -/
theorem has_eq_false : statement.has name = false ↔ ∃ failure, statement.Lacks name failure := by
  rw [has]
  cases found : statement.method name with
  | ok method =>
      constructor
      · intro denied
        cases denied
      · rintro ⟨failure, lacks⟩
        rw [method_eq_error.mpr lacks] at found
        cases found
  | error failure =>
      constructor
      · rintro -
        exact ⟨failure, method_eq_error.mp found⟩
      · rintro -
        rfl

/-! ## Clauses that are found -/

theorem namedClause_eq_ok {place : Argument} {clause : Clause} :
    statement.namedClause place = .ok clause ↔ place.Names statement.kind clause := by
  constructor
  · intro found
    cases place with
    | member entry =>
        cases entry with
        | clause kind other =>
            simp only [namedClause] at found
            split at found
            · rename_i own
              cases found
              subst own
              exact .member _
            · cases found
        | feature | command | operator => cases found
    | value | command | fixed | statement | other =>
        simp only [namedClause] at found
        split at found
        · rename_i byName
          cases found
          obtain ⟨among, same⟩ := Kind.clause?_eq_some.mp byName
          refine .shown (fun entry plain => ?_) among same
          cases plain
        · cases found
  · intro named
    cases named with
    | member => simp only [namedClause, if_true]
    | shown plain among same =>
        have byName := Kind.clause?_eq_some.mpr ⟨among, same⟩
        cases place with
        | member entry => exact absurd rfl (plain entry)
        | value | command | fixed | statement | other => simp only [namedClause, byName]

theorem misplaces_of_namedClause {place : Argument} {failure : Failure}
    (fails : statement.namedClause place = .error failure) :
    statement.Misplaces place failure := by
  cases place with
  | member entry =>
      cases entry with
      | clause kind clause =>
          simp only [namedClause] at fails
          split at fails
          · cases fails
          · rename_i foreign
            cases fails
            refine .foreign fun other same => ?_
            cases same
            exact foreign rfl
      | feature | command | operator =>
          cases fails
          refine .foreign fun other same => ?_
          cases same
  | value | command | fixed | statement | other =>
      simp only [namedClause] at fails
      split at fails
      · cases fails
      · rename_i unknown
        cases fails
        refine .unknown (fun entry plain => ?_) (Kind.clause?_eq_none.mp unknown)
        cases plain

theorem namedClause_of_foreign {entry : Member}
    (other : ∀ clause, entry ≠ .clause statement.kind clause) :
    statement.namedClause (.member entry) =
      .error (.foreignClause statement.kind entry.path) := by
  cases entry with
  | clause kind clause =>
      have foreign : kind ≠ statement.kind := fun same => other clause (by rw [same])
      simp only [namedClause, if_neg foreign]
  | feature | command | operator => rfl

theorem namedClause_of_unknown {place : Argument} (plain : ∀ entry, place ≠ .member entry)
    (unknown : statement.kind.clause? place.shown = none) :
    statement.namedClause place = .error (.unknownClause statement.kind place.quoted) := by
  cases place with
  | member entry => exact absurd rfl (plain entry)
  | value | command | fixed | statement | other => simp only [namedClause, unknown]

/-- The clause that an argument names cannot be attached to exactly for one of the reasons. -/
theorem clause_eq_error {place : Argument} {failure : Failure} :
    statement.clause place = .error failure ↔ statement.Misplaces place failure := by
  constructor
  · intro fails
    cases found : statement.namedClause place with
    | ok clause =>
        have named := namedClause_eq_ok.mp found
        simp only [Statement.clause, found, bind, Except.bind] at fails
        split at fails
        · rename_i feature needs
          split at fails
          · cases fails
          · rename_i unsupported
            cases fails
            exact .gated named needs (by simpa using unsupported)
        · cases fails
    | error other =>
        simp only [Statement.clause, found, bind, Except.bind] at fails
        cases fails
        exact misplaces_of_namedClause found
  · intro misplaced
    cases misplaced with
    | foreign other =>
        simp only [Statement.clause, namedClause_of_foreign other, bind, Except.bind]
    | unknown plain none =>
        have unknown := namedClause_of_unknown plain (Kind.clause?_eq_none.mpr none)
        simp only [Statement.clause, unknown, bind, Except.bind]
    | gated named needs unsupported =>
        simp only [Statement.clause, namedClause_eq_ok.mpr named, needs, unsupported, bind,
          Except.bind, Bool.false_eq_true, if_false]

/-- What a value names is the clause that has the value. -/
theorem names_iff_of_clauseOfValue? {text : Text} {clause other : Clause}
    (found : statement.kind.clauseOfValue? text = some clause) :
    Argument.Names statement.kind (.value (.text text)) other ↔ other = clause := by
  have own := Argument.names_of_clauseOfValue? found
  refine ⟨fun named => ?_, fun same => by rwa [same]⟩
  have both := (namedClause_eq_ok.mpr named).symm.trans (namedClause_eq_ok.mpr own)
  exact Except.ok.inj both

/-! ## Arguments that fit in number -/

/-- What is made of a value that is looked for cannot be had exactly when the value cannot. -/
theorem bind_pure_eq_error {α β : Type} {found : Except Failure α} {build : α → β}
    {failure : Failure} :
    (do let value ← found; pure (build value)) = .error failure ↔ found = .error failure := by
  constructor
  · intro fails
    cases found with
    | ok value => cases fails
    | error other =>
        cases fails
        rfl
  · rintro rfl
    rfl

variable {method : Method} {failure : Failure}

theorem declines_of_apply (silent : method.writes = false)
    (fails : statement.apply method arguments = .error failure) :
    statement.Declines method arguments failure := by
  unfold apply at fails
  split at fails
  · cases fails
  · exact .place (.inl rfl) (clause_eq_error.mp (bind_pure_eq_error.mp fails))
  · exact .place (.inr rfl) (clause_eq_error.mp (bind_pure_eq_error.mp fails))
  · cases silent
  · cases silent
  · cases silent
  · obtain ⟨other, rfl⟩ := Argument.operand_eq_error.mp (bind_pure_eq_error.mp fails)
    exact .query rfl other
  -- What is left puts something inside a SELECT, an INSERT or a script, or cannot fail.
  · split at fails
    · split at fails
      · obtain ⟨other, rfl⟩ := Argument.operand_eq_error.mp (bind_pure_eq_error.mp fails)
        rename_i adds
        exact .operand adds other
      · cases fails
    · split at fails
      · rename_i adds
        obtain ⟨other, rfl⟩ := Argument.statementOf_eq_error.mp (bind_pure_eq_error.mp fails)
        subst adds
        exact .statement rfl other
      · cases fails
    · split at fails
      · rename_i adds
        obtain ⟨other, rfl⟩ := Argument.statementOf_eq_error.mp (bind_pure_eq_error.mp fails)
        exact .statement adds other
      · cases fails
    · cases fails

theorem apply_of_declines (present : statement.kind.access method ≠ .absent)
    (declines : statement.Declines method arguments failure) :
    statement.apply method arguments = .error failure := by
  cases declines with
  | place attaches misplaced =>
      have found := clause_eq_error.mpr misplaced
      rcases attaches with rfl | rfl
      · exact bind_pure_eq_error.mpr found
      · exact bind_pure_eq_error.mpr found
  | query adds other =>
      subst adds
      exact bind_pure_eq_error.mpr (Argument.operand_eq_error.mpr ⟨other, rfl⟩)
  | @operand operation operand adds other =>
      have refused : operand.operand .select = .error (.notEmbeddable .select operand.typeName) :=
        Argument.operand_eq_error.mpr ⟨other, rfl⟩
      have kind := Kind.eq_select_of_operation? adds present
      cases statement with
      | select =>
        cases method with
        | union | intersect | except => exact bind_pure_eq_error.mpr refused
        | _ => cases adds
      | _ => cases kind
  | @statement wanted argument wants other =>
      have refused (host : Kind) :
          argument.statementOf wanted host = .error (.notEmbeddable host argument.typeName) :=
        Argument.statementOf_eq_error.mpr ⟨other, rfl⟩
      cases statement with
      | insert =>
        cases method with
        | select =>
          cases wants
          exact bind_pure_eq_error.mpr (refused _)
        | _ => cases wants
      | transaction =>
        cases method with
        | select | insert | update | delete | createTable | dropTable | alterTable =>
          cases wants
          exact bind_pure_eq_error.mpr (refused _)
        | _ => cases wants
      | _ => cases wants

/-! ## Calls -/

theorem mem_of_mem_shownPlace {argument place : Argument} {texts : List Argument}
    (shown : argument ∈ statement.shownArguments .rawBefore (place :: texts)) :
    argument ∈ place :: texts := by
  cases place with
  | member entry =>
      simp only [shownArguments] at shown
      split at shown
      · exact List.mem_cons_of_mem _ shown
      · cases shown
  | value | command | fixed | statement | other =>
      simp only [shownArguments] at shown
      split at shown
      · exact List.mem_cons.mpr (.inl (by simpa using shown))
      · rcases List.mem_append.mp shown with again | text
        · exact List.mem_cons.mpr (.inl (by simpa using again))
        · split at text
          · exact List.mem_cons_of_mem _ text
          · cases text

/-- Only arguments are asked for their texts. -/
theorem mem_of_mem_shownArguments {argument : Argument}
    (shown : argument ∈ statement.shownArguments method arguments) : argument ∈ arguments := by
  unfold shownArguments at shown
  split at shown
  · exact mem_of_mem_shownPlace shown
  · exact mem_of_mem_shownPlace shown
  · cases shown
  · cases shown
  · cases shown
  · exact List.mem_cons.mpr (.inl (List.mem_singleton.mp shown))
  · split at shown
    · split at shown
      · cases shown
      · exact shown
    · split at shown
      · cases shown
      · exact shown
    · split at shown
      · cases shown
      · exact shown
    · exact shown

theorem ownCourse_of_silent (silent : method.writes = false) :
    statement.ownCourse method arguments = [] := by
  cases method with
  | render | toText | quote | print | debug => cases silent
  | _ => rfl

/-- A call whose arguments fit in number fails for want of a text as the first argument does whose
text is asked for and cannot be given. -/
theorem failure?_callCourse_eq (silent : method.writes = false)
    (fits : (statement.kind.arity method).fits arguments.length = true) :
    (statement.callCourse method arguments).failure? =
      (statement.shownArguments method arguments).findSome? fun argument =>
        argument.course.failure? := by
  rw [callCourse, if_pos fits, ownCourse_of_silent silent, List.append_nil,
    Course.failure?_flatMap_eq]

theorem misses_iff (silent : method.writes = false)
    (fits : (statement.kind.arity method).fits arguments.length = true) :
    (statement.callCourse method arguments).failure? = some failure ↔
      statement.Misses method arguments failure := by
  rw [failure?_callCourse_eq silent fits, List.findSome?_eq_some_iff]
  constructor
  · rintro ⟨asked, missing, rest, shown, mute, written⟩
    exact .intro shown (fun argument member => Option.isNone_iff_eq_none.mpr
      (written argument member)) mute
  · rintro ⟨shown, written, mute⟩
    exact ⟨_, _, _, shown, mute, fun argument member => Option.isNone_iff_eq_none.mp
      (written argument member)⟩

theorem failure?_callCourse_of_shown (silent : method.writes = false)
    (writable : ∀ argument ∈ statement.shownArguments method arguments,
      argument.isWritable = true) :
    (statement.callCourse method arguments).failure? = none := by
  rw [callCourse]
  split
  · rw [ownCourse_of_silent silent, List.append_nil]
    exact Course.failure?_flatMap fun argument shown =>
      Option.isNone_iff_eq_none.mp (writable argument shown)
  · rfl

theorem failure?_callCourse (silent : method.writes = false)
    (writable : ∀ argument ∈ arguments, argument.isWritable = true) :
    (statement.callCourse method arguments).failure? = none :=
  failure?_callCourse_of_shown silent fun argument shown =>
    writable argument (mem_of_mem_shownArguments shown)

/-- A method that the statement has fails exactly for one of the reasons that come after that. -/
theorem perform_eq_error (silent : method.writes = false)
    (present : statement.kind.access method ≠ .absent) :
    statement.perform method arguments = .error failure ↔
      ((statement.kind.arity method).fits arguments.length = false ∧ failure = .badArguments) ∨
      ((statement.kind.arity method).fits arguments.length = true ∧
        (statement.Misses method arguments failure ∨
          (∀ argument ∈ statement.shownArguments method arguments,
            argument.isWritable = true) ∧
          statement.Declines method arguments failure)) := by
  rw [perform]
  cases fits : (statement.kind.arity method).fits arguments.length with
  | false =>
      simp only [Bool.false_eq_true, if_false, true_and, false_and, or_false]
      exact ⟨fun fails => by cases fails; rfl, fun same => by rw [same]⟩
  | true =>
      simp only [if_true, true_and, Bool.true_eq_false, false_and, false_or, Course.result,
        ← misses_iff silent fits]
      cases course : (statement.callCourse method arguments).failure? with
      | some other =>
          refine ⟨fun fails => .inl ?_, ?_⟩
          · cases fails
            rfl
          · rintro (same | ⟨written, -⟩)
            · cases same
              rfl
            · rw [failure?_callCourse_of_shown silent written] at course
              cases course
      | none =>
          have written : ∀ argument ∈ statement.shownArguments method arguments,
              argument.isWritable = true := fun argument member => by
            rw [failure?_callCourse_eq silent fits, List.findSome?_eq_none_iff] at course
            exact Option.isNone_iff_eq_none.mpr (course argument member)
          refine ⟨fun fails => .inr ⟨written, declines_of_apply silent fails⟩, ?_⟩
          rintro (impossible | ⟨-, declines⟩)
          · cases impossible
          · exact apply_of_declines present declines

/-- A call that fails for any other reason than a missing text leaves the statement as it was. -/
theorem leftBy_of_perform_eq_error (silent : method.writes = false)
    (writable : ∀ argument ∈ statement.shownArguments method arguments,
      argument.isWritable = true)
    (fails : statement.perform method arguments = .error failure) :
    statement.leftBy method arguments = statement := by
  rw [leftBy, fails]
  simp only [failure?_callCourse_of_shown silent writable, Option.isSome_none, Bool.false_eq_true,
    if_false]

/-- What is found under a name fails exactly for one of the reasons. -/
theorem refuses_iff
    (silent : ∀ method, Method.ofName? name = some method → method.writes = false) :
    statement.call name arguments = .error failure ↔ statement.Refuses name arguments failure := by
  rw [call]
  cases found : statement.method name with
  | error other =>
      have lacks := method_eq_error.mp found
      constructor
      · intro fails
        cases fails
        exact .method lacks
      · intro refuses
        cases refuses with
        | method same =>
            cases (method_eq_error.mpr same).symm.trans found
            rfl
        | count finds | text finds | argument finds =>
            rw [method_eq_ok_iff.mpr finds] at found
            cases found
  | ok method =>
      have finds := method_eq_ok_iff.mp found
      refine (perform_eq_error (silent method finds.named) finds.present).trans ?_
      constructor
      · rintro (⟨misfits, rfl⟩ | ⟨fits, misses | ⟨written, declines⟩⟩)
        · exact .count finds misfits
        · exact .text finds fits misses
        · exact .argument finds fits written declines
      · intro refuses
        cases refuses with
        | method lacks =>
            rw [method_eq_error.mpr lacks] at found
            cases found
        | count other misfits =>
            rw [method_eq_ok_iff.mpr other] at found
            cases found
            exact .inl ⟨misfits, rfl⟩
        | text other fits misses =>
            rw [method_eq_ok_iff.mpr other] at found
            cases found
            exact .inr ⟨fits, .inl misses⟩
        | argument other fits written declines =>
            rw [method_eq_ok_iff.mpr other] at found
            cases found
            exact .inr ⟨fits, .inr ⟨written, declines⟩⟩

end Statement
end SqlText
