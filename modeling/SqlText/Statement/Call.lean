import SqlText.Argument
import SqlText.Failure
import SqlText.Statement.Edit

/-!
# Calls on a statement

A call names a method and gives it arguments. It fails, in this order, when the statement has no
such method under its dialect, when the number of arguments does not fit, when a text that is asked
for cannot be given, when it names a clause that the statement does not have under its dialect, and
when it gives something to put inside the statement that cannot stand there.

A failing call changes nothing, unless it fails for want of a text. A method that takes any number
of texts takes them one after another, so those before the missing one have been taken then
(`leftBy`).

What is put inside a statement is put there as the value it has at the time of the call. The
statement that is called can be mentioned among the arguments itself. Where the texts are taken one
after another, such a mention stands for the statement as the texts before it have left it
(`meet`).
-/

set_option autoImplicit false

namespace SqlText

/-- The kind of statement that a method adds at the end of a transaction script. -/
def Method.entryKind? : Method → Option Kind
  | .select => some .select
  | .insert => some .insert
  | .update => some .update
  | .delete => some .delete
  | .createTable => some .createTable
  | .dropTable => some .dropTable
  | .alterTable => some .alterTable
  | _ => none

/-- The set operation that a method adds. -/
def Method.operation? : Method → Option SetOperation
  | .union => some .union
  | .intersect => some .intersect
  | .except => some .except
  | _ => none

/-- The argument as something to put inside a statement of the kind. -/
def Argument.operand (argument : Argument) (host : Kind) : Except Failure (Operand Statement) :=
  match argument.operand? with
  | some operand => .ok operand
  | none => .error (.notEmbeddable host argument.typeName)

/-- The argument as a statement of the wanted kind to put inside a statement of another. -/
def Argument.statementOf (argument : Argument) (wanted host : Kind) : Except Failure Statement :=
  match argument with
  | .statement inner =>
      if inner.kind = wanted then .ok inner else .error (.notEmbeddable host argument.typeName)
  | _ => .error (.notEmbeddable host argument.typeName)

/-- Whether the argument is a statement. -/
def Argument.isStatement : Argument → Bool
  | .statement _ => true
  | _ => false

/-- Why an argument cannot be printed to: only statements can print at all, and not in this way. -/
def Argument.printFailure (console : Argument) : Failure :=
  if console.isStatement then .badArguments
  else .noAttribute console.typeName "print".toList

/-- The texts that the arguments stand for. -/
def fragments (arguments : List Argument) : List Text := arguments.map Argument.fragment

namespace Statement

/-- The method of the given name, if the statement has it under its dialect. -/
def method (statement : Statement) (name : Text) : Except Failure Method :=
  match Method.ofName? name with
  | none => .error (.noAttribute statement.kind.name name)
  | some method =>
      match statement.kind.access method with
      | .absent => .error (.noAttribute statement.kind.name name)
      | .always => .ok method
      | .gated feature =>
          if statement.dialect.supports feature then .ok method
          else .error (.gatedMethod statement.kind name statement.dialect.name.quoted)

/-- Whether the statement has a method of the given name under its dialect. -/
def has (statement : Statement) (name : Text) : Bool :=
  match statement.method name with
  | .ok _ => true
  | .error _ => false

/-- The clause that an argument names, before its feature is looked at. -/
def namedClause (statement : Statement) (argument : Argument) : Except Failure Clause :=
  match argument with
  | .member (.clause kind clause) =>
      if kind = statement.kind then .ok clause
      else .error (.foreignClause statement.kind (Member.clause kind clause).path)
  | .member member => .error (.foreignClause statement.kind member.path)
  | argument =>
      match statement.kind.clause? argument.shown with
      | some clause => .ok clause
      | none => .error (.unknownClause statement.kind argument.quoted)

/-- The clause that an argument names, if the dialect has it. -/
def clause (statement : Statement) (argument : Argument) : Except Failure Clause := do
  let clause ← statement.namedClause argument
  match statement.kind.gate clause with
  | some feature =>
      if statement.dialect.supports feature then pure clause
      else .error (.missingFeature feature statement.dialect.name.quoted)
  | none => pure clause

/-- The statement with texts added to its raw text. -/
def addRaw (statement : Statement) (texts : List Text) : Statement :=
  statement.withFrame
    { statement.frame with raw := pushAll statement.frame.raw texts }

/-- The statement with raw texts added before a clause. -/
def addBefore (statement : Statement) (clause : Clause) (texts : List Text) : Statement :=
  statement.withFrame
    { statement.frame with before := statement.frame.before.pushAll clause texts }

/-- The statement with raw texts added after a clause. -/
def addAfter (statement : Statement) (clause : Clause) (texts : List Text) : Statement :=
  statement.withFrame
    { statement.frame with after := statement.frame.after.pushAll clause texts }

/-- The statement with a common table expression added. -/
def addQuery (statement : Statement) (name : Text) (query : Operand Statement) : Statement :=
  match statement with
  | select frame body queries operations =>
      select frame body (queries ++ [(name, query)]) operations
  | insert frame body queries source => insert frame body (queries ++ [(name, query)]) source
  | update frame body queries => update frame body (queries ++ [(name, query)])
  | delete frame body queries => delete frame body (queries ++ [(name, query)])
  | statement => statement

/-- The statement after a call of a method that it has, with arguments that fit in number. -/
def apply (statement : Statement) (method : Method) (arguments : List Argument) :
    Except Failure Statement :=
  match method, arguments with
  | .raw, texts => .ok (statement.addRaw (fragments texts))
  | .rawBefore, place :: texts => do
      let clause ← statement.clause place
      pure (statement.addBefore clause (fragments texts))
  | .rawAfter, place :: texts => do
      let clause ← statement.clause place
      pure (statement.addAfter clause (fragments texts))
  | .render, layout :: _ => .error (.noAttribute layout.typeName "space".toList)
  | .print, [console] => if console.holds then .error console.printFailure else .ok statement
  | .debug, [console] =>
      if console.holds then .error (.noAttribute console.typeName "rule".toList)
      else .ok statement
  | .withQuery, [name, query] => do
      let query ← query.operand statement.kind
      pure (statement.addQuery name.fragment.trim query)
  | method, arguments =>
      match statement, arguments with
      | select frame body queries operations, [operand] =>
          match method.operation? with
          | some operation => do
              let operand ← operand.operand .select
              pure (select frame body queries (operations ++ [(operation, operand)]))
          | none => .ok (statement.edit method (fragments arguments))
      | insert frame body queries _, [source] =>
          if method = .select then do
            let source ← source.statementOf .select .insert
            pure (insert frame body queries (some source))
          else .ok (statement.edit method (fragments arguments))
      | transaction frame body entries, [entry] =>
          match method.entryKind? with
          | some kind => do
              let entry ← entry.statementOf kind .transaction
              pure (transaction frame body (entries ++ [.statement entry]))
          | none => .ok (statement.edit method (fragments arguments))
      | statement, arguments => .ok (statement.edit method (fragments arguments))

/-! ## The statement among the arguments -/

/-- Whether a method takes its arguments one after another. -/
def takesEach (statement : Statement) (method : Method) : Bool :=
  (statement.kind.arity method).most.isNone

/-- The statement as the call of a method finds it when it has taken some arguments. -/
def during (statement : Statement) (method : Method) (met : List Argument) : Statement :=
  if statement.takesEach method then (statement.apply method met).toOption.getD statement
  else statement

/-- The arguments as the call of a method meets them, after those that it has met. -/
def meet (statement : Statement) (method : Method) (met : List Argument) :
    List Mention → List Argument
  | [] => met
  | .argument argument :: rest => statement.meet method (met ++ [argument]) rest
  | .itself :: rest =>
      statement.meet method (met ++ [.statement (statement.during method met)]) rest

/-! ## Texts that are asked for -/

/-- The arguments whose text is asked for in a call of a method, each as often as it is: a clause
that is given by another value is shown twice to look it up and once more to say that there is no
such clause, and what is put inside a statement is not shown at all. -/
def shownArguments (statement : Statement) (method : Method) (arguments : List Argument) :
    List Argument :=
  match method, arguments with
  | .rawBefore, place :: texts | .rawAfter, place :: texts =>
      match place with
      | .member _ => if (statement.clause place).isOk then texts else []
      | place =>
          match statement.namedClause place with
          | .error _ => [place, place, place]
          | .ok _ => [place, place] ++ if (statement.clause place).isOk then texts else []
  | .render, _ | .print, _ | .debug, _ => []
  | .withQuery, [name, _] => [name]
  | method, arguments =>
      match statement with
      | select .. => if method.operation?.isSome then [] else arguments
      | insert .. => if method = .select then [] else arguments
      | transaction .. => if method.entryKind?.isSome then [] else arguments
      | _ => arguments

/-- The course of what a method does with the statement's own text: it is returned, or printed
unless it is printed to something that cannot print. -/
def ownCourse (statement : Statement) (method : Method) (arguments : List Argument) : Course :=
  match method with
  | .toText | .quote => statement.course .compact
  | .render => if arguments.isEmpty then statement.course .compact else []
  | .print =>
      if arguments.all fun console => !console.holds || console.isStatement then
        statement.course .compact
      else []
  | .debug =>
      if arguments.all fun console => !console.holds then statement.course .pretty else []
  | _ => []

/-- The course of the call of a method. Nothing is asked for if the arguments do not fit in
number. -/
def callCourse (statement : Statement) (method : Method) (arguments : List Argument) : Course :=
  if (statement.kind.arity method).fits arguments.length then
    (statement.shownArguments method arguments).flatMap Argument.course ++
      statement.ownCourse method arguments
  else []

/-! ## Calls -/

/-- What the call of a method returns: the statement after it. -/
def perform (statement : Statement) (method : Method) (arguments : List Argument) :
    Except Failure Statement :=
  if (statement.kind.arity method).fits arguments.length then do
    (statement.callCourse method arguments).result ()
    statement.apply method arguments
  else .error .badArguments

/-- The statement as the call of a method leaves it. Where a text is missing, only those before it
have been taken. -/
def leftBy (statement : Statement) (method : Method) (arguments : List Argument) : Statement :=
  match statement.perform method arguments with
  | .ok changed => changed
  | .error _ =>
      if (statement.callCourse method arguments).failure?.isSome then
        statement.during method (arguments.takeWhile Argument.isWritable)
      else statement

/-- The statement after a call. -/
def call (statement : Statement) (name : Text) (arguments : List Argument) :
    Except Failure Statement := do
  statement.perform (← statement.method name) arguments

end Statement
end SqlText
