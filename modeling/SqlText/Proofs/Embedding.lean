import SqlText.Statement.Basic

/-!
# The statements inside a statement

The operands of a statement are what stands directly inside it: the queries of its common table
expressions, the operands of its set operations, the source of an INSERT, the entries of a
transaction script. A property holds *everywhere* in a statement when it holds of the statement, of
the statements inside it, and so on to any depth. What is true everywhere is proved by induction on
this.
-/

set_option autoImplicit false

namespace SqlText.Statement

/-- What stands directly inside a statement. -/
def operands : Statement → List (Operand Statement)
  | select _ _ queries operations => queries.map Prod.snd ++ operations.map Prod.snd
  | insert _ _ queries source => queries.map Prod.snd ++ (source.map Operand.statement).toList
  | update _ _ queries => queries.map Prod.snd
  | delete _ _ queries => queries.map Prod.snd
  | transaction _ _ entries => entries
  | _ => []

/-- What stands inside a statement is smaller, so that there is an end to what is inside what. -/
theorem sizeOf_lt_of_mem_operands {statement inner : Statement}
    (member : Operand.statement inner ∈ statement.operands) :
    sizeOf inner < sizeOf statement := by
  have listed {α : Type} [SizeOf α] {entries : List (α × Operand Statement)}
      (among : Operand.statement inner ∈ entries.map Prod.snd) :
      sizeOf inner < sizeOf entries := by
    obtain ⟨⟨name, operand⟩, inside, rfl⟩ := List.mem_map.mp among
    have smaller := List.sizeOf_lt_of_mem inside
    simp only [Prod.mk.sizeOf_spec, Operand.statement.sizeOf_spec] at smaller
    omega
  cases statement with
  | select frame body queries operations =>
      rw [select.sizeOf_spec]
      rcases List.mem_append.mp member with query | operation
      · have smaller := listed query
        omega
      · have smaller := listed operation
        omega
  | insert frame body queries source =>
      rw [insert.sizeOf_spec]
      rcases List.mem_append.mp member with query | kept
      · have smaller := listed query
        omega
      · cases source with
        | none => cases kept
        | some source =>
            cases List.mem_singleton.mp kept
            rw [Option.some.sizeOf_spec]
            omega
  | update frame body queries =>
      rw [update.sizeOf_spec]
      have smaller := listed member
      omega
  | delete frame body queries =>
      rw [delete.sizeOf_spec]
      have smaller := listed member
      omega
  | transaction frame body entries =>
      rw [transaction.sizeOf_spec]
      have smaller : sizeOf (Operand.statement inner) < sizeOf entries :=
        List.sizeOf_lt_of_mem member
      rw [Operand.statement.sizeOf_spec] at smaller
      omega
  | values | createTable | dropTable | dropIndex | createIndex | alterTable => cases member

/-- A property holds of a statement and of every statement inside it, to any depth. -/
inductive Everywhere (holds : Statement → Prop) : Statement → Prop where
  | intro {statement : Statement} (here : holds statement)
      (inside : ∀ inner, Operand.statement inner ∈ statement.operands → Everywhere holds inner) :
      Everywhere holds statement

namespace Everywhere

variable {holds : Statement → Prop} {statement : Statement}

theorem here (everywhere : Everywhere holds statement) : holds statement := by
  cases everywhere with
  | intro here _ => exact here

theorem inside (everywhere : Everywhere holds statement) :
    ∀ inner, Operand.statement inner ∈ statement.operands → Everywhere holds inner := by
  cases everywhere with
  | intro _ inside => exact inside

theorem mono {weaker : Statement → Prop} (implies : ∀ statement, holds statement → weaker statement)
    (everywhere : Everywhere holds statement) : Everywhere weaker statement := by
  induction everywhere with
  | intro here _ ih => exact .intro (implies _ here) ih

/-- Two properties that hold everywhere hold everywhere together. -/
theorem and {other : Statement → Prop} (first : Everywhere holds statement)
    (second : Everywhere other statement) :
    Everywhere (fun statement => holds statement ∧ other statement) statement := by
  induction first with
  | intro here _ ih =>
      refine .intro ⟨here, second.here⟩ fun inner member => ?_
      exact ih inner member (second.inside inner member)

end Everywhere

end SqlText.Statement
