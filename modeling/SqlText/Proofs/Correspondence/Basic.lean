import Mathlib.Data.List.Forall2
import SqlText.Proofs.Joining
import SqlText.Proofs.Stored
import SqlText.Render.Statement

/-!
# Renderings that correspond

A rendering puts texts one after another, puts them in parentheses and trims them, and it decides
only on whether something is left of a trimmed text. So if texts correspond in a way that all this
respects, and the parts of two layouts correspond, then the renderings of a statement in the two
layouts do (`Correspondence.statement`). What a statement stores takes part in both renderings, so
each of its texts has to correspond to itself.

The entries of a parameter list are an exception: they are left out when they are empty, not when
they are blank. There it is needed that the statement is valid.
-/

set_option autoImplicit false

namespace SqlText

open Text

/-- The characters of keywords and of what ends a command. -/
def Text.IsKeyword (text : Text) : Prop := ∀ c ∈ text, c.isUpper = true ∨ c = ' ' ∨ c = ';'

instance (text : Text) : Decidable text.IsKeyword :=
  List.decidableBAll (fun c : Char => c.isUpper = true ∨ c = ' ' ∨ c = ';') text

/-- A relation between texts and one between layouts that renderings respect. -/
structure Correspondence where
  texts : Text → Text → Prop
  layouts : Layout → Layout → Prop
  keyword {text : Text} : text.IsKeyword → texts text text
  append {a b c d : Text} : texts a b → texts c d → texts (a ++ c) (b ++ d)
  parentheses {a b : Text} : texts a b → texts ('(' :: a ++ [')']) ('(' :: b ++ [')'])
  trim {a b : Text} : texts a b → texts a.trim b.trim
  trimEnd {a b : Text} : texts a b → texts a.trimEnd b.trimEnd
  trim_eq_nil {a b : Text} : texts a b → (a.trim = [] ↔ b.trim = [])
  itemSeparator {f g : Layout} : layouts f g → texts f.itemSeparator g.itemSeparator
  lineBreak {f g : Layout} : layouts f g → texts f.lineBreak g.lineBreak
  indent {f g : Layout} : layouts f g → texts f.indent g.indent
  space {f g : Layout} : layouts f g → texts f.space g.space
  nested {f g : Layout} : layouts f g → layouts f.nested g.nested

namespace Correspondence

variable (κ : Correspondence)

/-- The text corresponds to itself. -/
abbrev Fixes (text : Text) : Prop := κ.texts text text

variable {κ} {f g : Layout}

theorem nil : κ.texts [] [] := κ.keyword (by decide)

theorem enclosed {a b c d : Text} (inside : κ.texts a b) (behind : κ.texts c d) :
    κ.texts ('(' :: a ++ ')' :: c) ('(' :: b ++ ')' :: d) := by
  have whole := κ.append (κ.parentheses inside) behind
  simpa only [List.cons_append, List.append_assoc, List.nil_append] using whole

theorem join {first second : List Text} {a b : Text} (separators : κ.texts a b)
    (related : List.Forall₂ κ.texts first second) :
    κ.texts (Text.join a first) (Text.join b second) := by
  induction related with
  | nil => exact nil
  | cons head tail ih =>
      cases tail with
      | nil => simpa [Text.join] using head
      | cons next others =>
          rw [Text.join, Text.join, List.intercalate_cons_cons, List.intercalate_cons_cons]
          exact κ.append (κ.append head separators) ih

theorem forall₂_self {texts : List Text} (fixed : ∀ text ∈ texts, κ.Fixes text) :
    List.Forall₂ κ.texts texts texts :=
  List.forall₂_same.mpr fixed

/-- The texts that are left of corresponding texts correspond, if they are empty together. -/
theorem forall₂_filter {first second : List Text}
    (related : List.Forall₂ (fun a b => κ.texts a b ∧ (a = [] ↔ b = [])) first second) :
    List.Forall₂ κ.texts (first.filter (· ≠ [])) (second.filter (· ≠ [])) := by
  induction related with
  | nil => exact .nil
  | @cons a b first second head tail ih =>
      by_cases empty : a = []
      · have other := head.2.mp empty
        rw [List.filter_cons_of_neg (by simp [empty]), List.filter_cons_of_neg (by simp [other])]
        exact ih
      · have other : b ≠ [] := fun isEmpty => empty (head.2.mpr isEmpty)
        rw [List.filter_cons_of_pos (by simp [empty]), List.filter_cons_of_pos (by simp [other])]
        exact .cons head.1 ih

theorem join_self {texts : List Text} {a b : Text} (separators : κ.texts a b)
    (fixed : ∀ text ∈ texts, κ.Fixes text) :
    κ.texts (Text.join a texts) (Text.join b texts) :=
  κ.join separators (forall₂_self fixed)

/-! ## Pieces of a layout -/

section Pieces

variable (layouts : κ.layouts f g)
include layouts

theorem terminator : κ.texts f.terminator g.terminator :=
  κ.append (κ.space layouts) (κ.lineBreak layouts)

theorem terminated {a b : Text} (related : κ.texts a b) (empty : a = [] ↔ b = []) :
    κ.texts (f.terminated a) (g.terminated b) := by
  rw [Layout.terminated, Layout.terminated]
  by_cases isEmpty : a = []
  · rw [if_pos isEmpty, if_pos (empty.mp isEmpty)]
    exact nil
  · rw [if_neg isEmpty, if_neg fun other => isEmpty (empty.mpr other)]
    exact κ.append related (terminator layouts)

theorem rawText {fragments : List Text} (fixed : ∀ text ∈ fragments, κ.Fixes text) :
    κ.texts (f.rawText fragments) (g.rawText fragments) := by
  have visible : ∀ text ∈ fragments.filter (· ≠ []), text ≠ [] := by
    intro text member
    simpa using (List.mem_filter.mp member).2
  refine terminated layouts (join_self (terminator layouts) ?_) ?_
  · intro text member
    exact fixed text (List.mem_of_mem_filter member)
  · rw [Text.join_eq_nil_iff visible, Text.join_eq_nil_iff visible]

theorem wrapped {before after : List Text} {a b : Text}
    (fixedBefore : ∀ text ∈ before, κ.Fixes text) (related : κ.texts a b)
    (fixedAfter : ∀ text ∈ after, κ.Fixes text) :
    κ.texts (f.wrapped before a after) (g.wrapped before b after) :=
  κ.append (κ.append (rawText layouts fixedBefore) related) (rawText layouts fixedAfter)

omit layouts in
theorem operatorWord (operator : Operator) : κ.Fixes operator.word := by
  cases operator <;> exact κ.keyword (by decide)

theorem conditionLines {conditions : List Condition}
    (fixed : ∀ condition ∈ conditions, κ.Fixes condition.2) :
    κ.texts (f.conditionLines conditions) (g.conditionLines conditions) := by
  cases conditions with
  | nil => exact nil
  | cons first rest =>
      rw [Layout.conditionLines, Layout.conditionLines]
      refine κ.append (κ.append (κ.indent layouts) (fixed first List.mem_cons_self)) ?_
      have others : ∀ condition ∈ rest, κ.Fixes condition.2 :=
        fun condition member => fixed condition (List.mem_cons_of_mem _ member)
      clear fixed
      induction rest with
      | nil => exact nil
      | cons next later ih =>
          rw [List.flatMap_cons, List.flatMap_cons]
          have later' := ih fun condition member =>
            others condition (List.mem_cons_of_mem _ member)
          refine κ.append ?_ later'
          exact κ.append (κ.append (κ.append (κ.append (terminator layouts) (κ.indent layouts))
            (operatorWord next.1)) (κ.space layouts)) (others next List.mem_cons_self)

end Pieces

end Correspondence
end SqlText
