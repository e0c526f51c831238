import Mathlib.Data.List.Forall2
import SqlText.Proofs.Collecting
import SqlText.Render.Part

/-!
# Texts that stand in a text

A text carries some texts if they stand in it unchanged, one after another and without overlapping
(`Text.Carries`). What is carried by a text is carried by every longer one, and by two texts one
after another what both carry. Trimming keeps what is carried if this is made of fragments and
empty texts (`Carries.trim`), because nothing that is removed belongs to a fragment then.
-/

set_option autoImplicit false

namespace SqlText

namespace Text

/-- The texts stand in the text one after another, with anything around and between them. -/
inductive Carries : Text → List Text → Prop where
  | nil (text : Text) : Carries text []
  | cons (before : Text) {fragment after : Text} {rest : List Text} (later : Carries after rest) :
      Carries (before ++ fragment ++ after) (fragment :: rest)

namespace Carries

variable {text other : Text} {fragments others : List Text}

theorem append_left (front : Text) (carries : Carries text fragments) :
    Carries (front ++ text) fragments := by
  cases carries with
  | nil => exact .nil _
  | cons before later =>
      rw [← List.append_assoc, ← List.append_assoc]
      exact .cons (front ++ before) later

theorem append (first : Carries text fragments) (second : Carries other others) :
    Carries (text ++ other) (fragments ++ others) := by
  induction first with
  | nil text => exact second.append_left text
  | cons before later ih =>
      rw [List.append_assoc]
      exact .cons before ih

theorem append_right (back : Text) (carries : Carries text fragments) :
    Carries (text ++ back) fragments := by
  have whole := carries.append (.nil back)
  rwa [List.append_nil] at whole

theorem self (text : Text) : Carries text [text] := by
  have alone : Carries ([] ++ text ++ []) [text] := .cons [] (.nil [])
  rwa [List.nil_append, List.append_nil] at alone

/-- What stands in a text stands in it when it is in parentheses, too. -/
theorem enclosed (carries : Carries text fragments) (back : Text) :
    Carries ('(' :: text ++ ')' :: back) fragments :=
  (carries.append_left ['(']).append_right (')' :: back)

/-- An empty text stands everywhere. -/
theorem cons_nil (carries : Carries text fragments) : Carries text ([] :: fragments) := by
  have whole : Carries ([] ++ [] ++ text) ([] :: fragments) := .cons [] carries
  rwa [List.nil_append, List.nil_append] at whole

/-- Some of the texts that a text carries. -/
theorem sublist (carries : Carries text fragments) (part : others.Sublist fragments) :
    Carries text others := by
  induction carries generalizing others with
  | nil =>
      rw [List.sublist_nil.mp part]
      exact .nil _
  | cons before later ih =>
      cases part with
      | cons _ fewer => exact (ih fewer).append_left _
      | cons_cons _ fewer => exact .cons before (ih fewer)

theorem of_filter (carries : Carries text (fragments.filter (· ≠ []))) :
    Carries text fragments := by
  induction fragments generalizing text with
  | nil => exact carries
  | cons first rest ih =>
      by_cases empty : first = []
      · rw [List.filter_cons_of_neg (by simp [empty])] at carries
        rw [empty]
        exact (ih carries).cons_nil
      · rw [List.filter_cons_of_pos (by simp [empty])] at carries
        cases carries with
        | cons before later => exact .cons before (ih later)

/-! ## Trimming -/

theorem trimStart (carries : Carries text fragments)
    (values : ∀ fragment ∈ fragments, IsValue fragment) :
    Carries text.trimStart fragments := by
  induction carries with
  | nil => exact .nil _
  | @cons before fragment after rest later ih =>
      by_cases blank : AllBlank before
      · rw [List.append_assoc, trimStart_append_left blank]
        rcases values fragment List.mem_cons_self with rfl | visible
        · have others : ∀ text ∈ rest, IsValue text :=
            fun text member => values text (List.mem_cons_of_mem _ member)
          exact (ih others).cons_nil
        · rw [(visible.opens.append after).trimStart_eq]
          exact .cons [] later
      · rw [List.append_assoc, trimStart_append_of_not_blank blank, ← List.append_assoc]
        exact .cons _ later

theorem trimEnd (carries : Carries text fragments)
    (values : ∀ fragment ∈ fragments, IsValue fragment) :
    Carries text.trimEnd fragments := by
  induction carries with
  | nil => exact .nil _
  | @cons before fragment after rest later ih =>
      have others : ∀ text ∈ rest, IsValue text :=
        fun text member => values text (List.mem_cons_of_mem _ member)
      have left := ih others
      by_cases blank : AllBlank after
      · rw [trimEnd_eq_nil_iff.mpr blank] at left
        rw [trimEnd_append_right blank]
        rcases values fragment List.mem_cons_self with rfl | visible
        · rw [List.append_nil]
          have whole := (left.cons_nil).append_left before.trimEnd
          rwa [List.append_nil] at whole
        · rw [(visible.closes.append before).trimEnd_eq]
          have whole : Carries (before ++ fragment ++ []) (fragment :: rest) := .cons before left
          rwa [List.append_nil] at whole
      · rw [trimEnd_append_of_not_blank blank]
        exact .cons before left

/-- Trimming keeps the fragments that stand in a text. -/
theorem trim (carries : Carries text fragments)
    (values : ∀ fragment ∈ fragments, IsValue fragment) : Carries text.trim fragments :=
  (carries.trimStart values).trimEnd values

/-! ## Separated texts -/

section Separated

variable {α : Type} {content : α → Text} {inside : α → List Text}

theorem join_singleton (separator : Text) (carries : Carries text fragments) :
    Carries (Text.join separator [text]) fragments := by
  rwa [Text.join, List.intercalate_singleton]

theorem join_cons (separator : Text) {texts : List Text} (first : Carries text fragments)
    (rest : Carries (Text.join separator texts) others) :
    Carries (Text.join separator (text :: texts)) (fragments ++ others) := by
  cases texts with
  | nil =>
      have whole := first.append rest
      rw [Text.join, List.intercalate_nil, List.append_nil] at whole
      exact join_singleton separator whole
  | cons second later =>
      rw [Text.join, List.intercalate_cons_cons, List.append_assoc, ← Text.join]
      exact first.append (rest.append_left separator)

/-- Separated texts carry what each of them carries, in their order. -/
theorem join (separator : Text) {items : List α}
    (each : ∀ item ∈ items, Carries (content item) (inside item)) :
    Carries (Text.join separator (items.map content)) (items.flatMap inside) := by
  induction items with
  | nil => exact .nil _
  | cons first rest ih =>
      have head := each first List.mem_cons_self
      have tail := ih fun item member => each item (List.mem_cons_of_mem _ member)
      rw [List.map_cons, List.flatMap_cons]
      exact join_cons separator head tail

/-- So do those of them that are not empty. -/
theorem join_filter (separator : Text) {texts : List Text} {contents : List (List Text)}
    (each : List.Forall₂ Carries texts contents) :
    Carries (Text.join separator (texts.filter (· ≠ []))) contents.flatten := by
  induction each with
  | nil => exact .nil _
  | @cons first content rest others head tail ih =>
      rw [List.flatten_cons]
      by_cases empty : first = []
      · rw [empty] at head
        rw [List.filter_cons_of_neg (by simp [empty])]
        exact head.append ih
      · rw [List.filter_cons_of_pos (by simp [empty])]
        exact join_cons separator head ih

theorem join_self (separator : Text) (texts : List Text) :
    Carries (Text.join separator texts) texts := by
  induction texts with
  | nil => exact .nil _
  | cons first rest ih => exact join_cons separator (self first) ih

end Separated

end Carries
end Text

open Text

/-! ## Pieces of a layout -/

namespace Layout

variable (layout : Layout)

theorem carries_terminated {text : Text} {fragments : List Text}
    (carries : Carries text fragments) : Carries (layout.terminated text) fragments := by
  rw [terminated]
  split
  · rename_i empty
    rwa [empty] at carries
  · exact carries.append_right _

theorem carries_rawText (fragments : List Text) : Carries (layout.rawText fragments) fragments := by
  rw [rawText]
  exact layout.carries_terminated (Carries.join_self _ _).of_filter

theorem carries_wrapped {text : Text} {fragments : List Text} (before after : List Text)
    (carries : Carries text fragments) :
    Carries (layout.wrapped before text after) (before ++ fragments ++ after) :=
  ((layout.carries_rawText before).append carries).append (layout.carries_rawText after)

theorem carries_conditionLines (conditions : List Condition) :
    Carries (layout.conditionLines conditions) (conditions.map Prod.snd) := by
  cases conditions with
  | nil => exact .nil _
  | cons first rest =>
      rw [conditionLines, List.map_cons]
      refine ((Carries.self first.2).append_left layout.indent).append ?_
      induction rest with
      | nil => exact .nil _
      | cons next later ih =>
          rw [List.flatMap_cons, List.map_cons]
          exact ((Carries.self next.2).append_left _).append ih

end Layout

end SqlText
