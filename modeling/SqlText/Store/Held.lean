import SqlText.Statement.Call

/-!
# What a statement holds inside

A statement holds others as the queries of its common table expressions, as the operands of its set
operations, as its source and as its entries. What is held in one of these ways can be told by
itself, whatever stands for the other statement: the statement, or the place where it is kept
(`Held`). A statement with one more thing inside is `Statement.put`, and what a call puts inside is
`Held.ofCall?`.
-/

set_option autoImplicit false

namespace SqlText

namespace Operand

variable {σ τ : Type}

/-- The operand with something else standing for the statement. -/
def map (stands : σ → τ) : Operand σ → Operand τ
  | .statement inner => .statement (stands inner)
  | .command order => .command order
  | .fixed content => .fixed content

/-- What stands for the statement, if it is one. -/
def statement? : Operand σ → Option σ
  | .statement inner => some inner
  | _ => none

end Operand

/-- Something that is held inside a statement, and the way in which it is held. -/
inductive Held (σ : Type) where
  | query (name : Text) (operand : Operand σ)
  | operation (operation : SetOperation) (operand : Operand σ)
  | source (source : σ)
  | entry (operand : Operand σ)

namespace Held

variable {σ τ : Type}

/-- The operand that is held. -/
def operand : Held σ → Operand σ
  | query _ operand | operation _ operand | entry operand => operand
  | source inner => .statement inner

/-- What stands for the statement that is held, if it is one. -/
def statement? (held : Held σ) : Option σ := held.operand.statement?

/-- The same held with something else standing for the statement. -/
def map (stands : σ → τ) : Held σ → Held τ
  | query name operand => .query name (operand.map stands)
  | operation way operand => .operation way (operand.map stands)
  | source inner => .source (stands inner)
  | entry operand => .entry (operand.map stands)

/-- Whether it is held as the source of an INSERT, of which there is only one. -/
def isSource : Held σ → Bool
  | source _ => true
  | _ => false

/-- What the call of a method puts inside a statement of the kind, out of what its arguments are
inside one. A method that puts nothing inside and one that is not given what it would put there put
nothing. -/
def ofCall? (kind : Kind) (method : Method) (texts : List Text)
    (operands : List (Option (Operand σ))) : Option (Held σ) :=
  if method = .withQuery then
    match operands with
    | [_, given] => given.map (.query (newValue texts))
    | _ => none
  else
    match kind, operands with
    | .select, [some given] => method.operation?.map (.operation · given)
    | .insert, [some (.statement given)] =>
        if method = .select then some (.source given) else none
    | .transaction, operands =>
        match method.entryCommand?, operands with
        | some kind, _ => some (.entry (.command { kind, argument := newValue texts }))
        | none, [some (.statement given)] =>
            if method.entryKind?.isSome then some (.entry (.statement given)) else none
        | none, _ => none
    | _, _ => none

end Held

namespace Statement

/-- The statement with one more thing inside. A kind that does not hold things in this way stays as
it is. -/
def put (statement : Statement) : Held Statement → Statement
  | .query name operand => statement.addQuery name operand
  | .operation way operand =>
      match statement with
      | select frame body queries operations =>
          select frame body queries (operations ++ [(way, operand)])
      | statement => statement
  | .source inner =>
      match statement with
      | insert frame body queries _ => insert frame body queries (some inner)
      | statement => statement
  | .entry operand =>
      match statement with
      | transaction frame body entries => transaction frame body (entries ++ [operand])
      | statement => statement

end Statement
end SqlText
