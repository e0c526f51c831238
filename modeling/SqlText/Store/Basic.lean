import SqlText.Store.Held

/-!
# Statements in a store

A statement that is worked on is an object: it is changed in place, and what it holds inside are
other objects. In a store each of these objects has a place (`Entry`). It keeps its own clauses in a
cell, and refers to the statements inside it by their places. So the value of a statement is not
kept anywhere: it is read off the store, through the references, as it is at present
(`Store.value`).

What is put inside a statement is put there as a copy. A copy is made of everything that can be
reached from an object: whatever is met gets a new place and a new cell behind all others, once, and
refers to the new places (`Store.copied`). Nothing else keeps objects apart. Two objects that had a
cell in common would change together, and a reference that is put inside another object without a
copy shows every change of what it refers to.

What an object refers to stands behind it. The values are therefore found from the last object on
(`Store.visits`).
-/

set_option autoImplicit false

namespace SqlText

/-- A statement as it is read off its object: its own clauses, and what it holds inside by the
places of the statements. -/
structure Builder where
  own : Statement
  inside : List (Held Nat) := []

namespace Builder

/-- The places that the builder refers to. -/
def places (builder : Builder) : List Nat := builder.inside.filterMap Held.statement?

/-- The value of the builder, if those of the statements inside it are known. -/
def value (values : Nat → Statement) (builder : Builder) : Statement :=
  (builder.inside.map (Held.map values)).foldl Statement.put builder.own

/-- The builder with other places for those that it refers to. -/
def renamed (rename : Nat → Nat) (builder : Builder) : Builder :=
  { builder with inside := builder.inside.map (Held.map rename) }

/-- The builder with one more thing inside. A source takes the place of another one. -/
def holding (held : Held Nat) (builder : Builder) : Builder :=
  { builder with
    inside :=
      builder.inside.filter (fun other => !(held.isSource && other.isSource)) ++ [held] }

end Builder

/-- A statement as an object: the cell of its own clauses, and what it holds inside. -/
structure Entry where
  cell : Nat
  inside : List (Held Nat) := []

/-- The objects that there are, in the order in which they have come about, and their cells. -/
structure Store where
  entries : List Entry
  cells : List Statement

namespace Store

/-- A store without objects. -/
def start : Store := ⟨[], []⟩

/-- How many objects there are. -/
def length (store : Store) : Nat := store.entries.length

/-- The value of a builder that is not there. -/
def nothing : Statement := .empty .select .generic

/-- The object at a place. One that is not there has no cell. -/
def entry (store : Store) (place : Nat) : Entry :=
  store.entries.getD place { cell := store.cells.length }

/-- The cell of the object at a place. -/
def cell (store : Store) (place : Nat) : Nat := (store.entry place).cell

/-- What is read off an object. -/
def read (store : Store) (entry : Entry) : Builder :=
  { own := store.cells.getD entry.cell nothing, inside := entry.inside }

/-- The builder at a place. -/
def builder (store : Store) (place : Nat) : Builder := store.read (store.entry place)

/-- The places that the builder at a place refers to. -/
def places (store : Store) (place : Nat) : List Nat := (store.builder place).places

/-! ## Reading -/

/-- What visits of the builders find, of which the first one stands at the given place. A visit is
told the place, the builder and what has been found behind it. -/
def visits {α : Type} (visit : Nat → Builder → (Nat → α) → α) (missing : α) :
    Nat → List Builder → List α
  | _, [] => []
  | first, builder :: rest =>
      let behind := visits visit missing (first + 1) rest
      let found (place : Nat) : α :=
        if first < place then behind.getD (place - (first + 1)) missing else missing
      visit first builder found :: behind

/-- What the visit of the builder at a place finds. -/
def visited {α : Type} (visit : Nat → Builder → (Nat → α) → α) (missing : α) (store : Store)
    (place : Nat) : α :=
  (visits visit missing 0 (store.entries.map store.read)).getD place missing

/-- The value of the builder at a place. -/
def value (store : Store) (place : Nat) : Statement :=
  store.visited (fun _ builder values => builder.value values) nothing place

/-- The places that can be reached from a place, and the place itself. -/
def reached (store : Store) (place : Nat) : List Nat :=
  store.visited (fun place builder inner => place :: builder.places.flatMap inner) [] place

/-! ## Changing -/

/-- The store with the builder at a place changed in place: its cell is written, and what it holds
inside. -/
def modify (store : Store) (place : Nat) (change : Builder → Builder) : Store :=
  let changed := change (store.builder place)
  { entries := store.entries.set place { cell := store.cell place, inside := changed.inside }
    cells := store.cells.set (store.cell place) changed.own }

/-- The store with a new builder behind all others, which keeps the clauses of a statement. -/
def made (store : Store) (statement : Statement) : Store :=
  { entries := store.entries ++ [{ cell := store.cells.length }]
    cells := store.cells ++ [statement] }

/-- The places that a copy meets, each one once. -/
def met (store : Store) (place : Nat) : List Nat :=
  (List.range store.length).filter fun other => other ∈ store.reached place

/-- The place of the copy of a builder, when another one is copied with everything inside it. -/
def copyPlace (store : Store) (place other : Nat) : Nat :=
  store.length + (store.met place).idxOf other

/-- The copy of the object at a place, with a cell of its own. -/
def copyEntry (store : Store) (place other : Nat) : Entry :=
  { cell := store.cells.length + (store.met place).idxOf other
    inside := ((store.builder other).renamed (store.copyPlace place)).inside }

/-- The store with a copy of the builder at a place, and of everything inside it. -/
def copied (store : Store) (place : Nat) : Store :=
  { entries := store.entries ++ (store.met place).map (store.copyEntry place)
    cells := store.cells ++ (store.met place).map fun other => (store.builder other).own }

/-- The store with something put inside the builder at a place: a copy of it, if it is a builder. -/
def hold (store : Store) (place : Nat) (held : Held Nat) : Store :=
  match held.statement? with
  | some inner =>
      (store.copied inner).modify place (Builder.holding (held.map (store.copyPlace inner)))
  | none => store.modify place (Builder.holding held)

/-- The store after the call of a method on the builder at a place, with the arguments as they are
read and as they are inside a statement. -/
def call (store : Store) (place : Nat) (method : Method) (arguments : List Argument)
    (operands : List (Option (Operand Nat))) : Store :=
  let own := (store.builder place).own
  match Held.ofCall? own.kind method (fragments arguments) operands with
  | some held =>
      if (own.perform method arguments).isOk then store.hold place held else store
  | none =>
      store.modify place fun builder =>
        { builder with own := builder.own.leftBy method arguments }

/-- The store with the dialect of the builder at a place replaced. -/
def rededicate (store : Store) (place : Nat) (dialect : Dialect) : Store :=
  store.modify place fun builder => { builder with own := builder.own.withDialect dialect }

end Store
end SqlText
