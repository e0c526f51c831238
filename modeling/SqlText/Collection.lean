import SqlText.Accumulation
import SqlText.Failure
import SqlText.Key

/-!
# Collecting fragments outside a statement

A collection is one list of each kind that a clause can keep: fragments, conditions, and raw text
by key. A step adds to one of them and tells whether anything was added. The operator of a
condition and the key of a raw text are looked at only if there is something to add. A key is
shown as it was written when it got its first raw text.
-/

set_option autoImplicit false

namespace SqlText

/-- The lists of a collection. -/
structure Collection where
  items : List Text := []
  conditions : List Condition := []
  raw : RawText Key := []
  /-- The keys of the raw text as they were first written. -/
  places : List (Key × Value) := []

/-- The operator that a value names. -/
def Operator.ofValue (value : Value) : Except Failure Operator :=
  match Operator.ofName? value.shown with
  | some operator => .ok operator
  | none => .error (.unknownOperator value.quoted)

namespace Collection

/-- What can be added. -/
inductive Step where
  | item (fragment : Text)
  | condition (operator : Value) (fragment : Text)
  | raw (place : Value) (fragment : Text)
  | single (fragment : Text)

/-- What a step answers: a list and whether it has changed, or a single value. -/
inductive Answer where
  | items (changed : Bool) (items : List Text)
  | conditions (changed : Bool) (conditions : List Condition)
  | raw (changed : Bool) (raw : List (Value × List Text))
  | single (value : Text)

/-- The raw text, each key as it was first written. -/
def shownRaw (collection : Collection) : List (Value × List Text) :=
  collection.raw.map fun (key, texts) => ((collection.places.lookup key).getD .none, texts)

/-- The collection with one more raw text at a key, which is written as the given value. -/
def pushRaw (collection : Collection) (key : Key) (place : Value) (fragment : Text) :
    Collection :=
  { collection with
    raw := collection.raw.push key fragment
    places := collection.places ++ [(key, place)] }

/-- The collection after a step, and the answer. -/
def step (collection : Collection) : Step → Collection × Except Failure Answer
  | .item fragment =>
      let items := pushUnique collection.items fragment
      ({ collection with items }, .ok (.items (decide (items ≠ collection.items)) items))
  | .condition operator fragment =>
      if fragment.trim = [] then
        (collection, .ok (.conditions false collection.conditions))
      else
        match Operator.ofValue operator with
        | .error failure => (collection, .error failure)
        | .ok operator =>
            let conditions := pushCondition collection.conditions operator fragment
            ({ collection with conditions },
             .ok (.conditions (decide (conditions ≠ collection.conditions)) conditions))
  | .raw place fragment =>
      if fragment.trim = [] then (collection, .ok (.raw false collection.shownRaw))
      else
        match place.key? with
        | none => (collection, .error .badArguments)
        | some key =>
            let after := collection.pushRaw key place fragment
            (after, .ok (.raw (decide (after.raw ≠ collection.raw)) after.shownRaw))
  | .single fragment => (collection, .ok (.single fragment.trim))

/-- The answers to steps that are taken one after another. -/
def run (collection : Collection) : List Step → List (Except Failure Answer)
  | [] => []
  | first :: rest =>
      let (after, answer) := collection.step first
      answer :: after.run rest

end Collection
end SqlText
