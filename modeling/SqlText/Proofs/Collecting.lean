import SqlText.Proofs.Trimming
import SqlText.Statement.Edit

/-!
# What a clause can hold

Every way of adding to a clause trims what is given and drops what is empty then. So a list of
fragments holds fragments only, each of them once, and a list of conditions holds each condition
once for an operator (`Collected`). A single value is a fragment or empty (`IsValue`), and raw text
is kept under the clauses that were asked for, with at least one fragment for each
(`RawText.IsKept`).
-/

set_option autoImplicit false

namespace SqlText

open Text

/-- A single value: a fragment, or nothing. -/
def IsValue (text : Text) : Prop := text = [] ∨ text.IsFragment

theorem isValue_trim (text : Text) : IsValue text.trim := by
  by_cases empty : text.trim = []
  · exact .inl empty
  · exact .inr (isFragment_trim empty)

theorem IsValue.isFragment {text : Text} (value : IsValue text) (visible : text ≠ []) :
    text.IsFragment :=
  value.resolve_left visible

theorem isValue_newValue (texts : List Text) : IsValue (newValue texts) := isValue_trim _

/-! ## Lists -/

section Lists

variable {α : Type} {content : α → Text}

/-- A list without repetition of items whose texts are fragments. -/
structure Collected (content : α → Text) (items : List α) : Prop where
  fragments : ∀ item ∈ items, (content item).IsFragment
  nodup : items.Nodup

theorem collected_nil (content : α → Text) : Collected content [] := ⟨by simp, List.nodup_nil⟩

/-- A list stays so with one more item at its end, unless that is empty or already there. -/
theorem Collected.append_unless {items : List α} (collected : Collected content items) (item : α)
    (value : IsValue (content item)) [Decidable (content item = [] ∨ item ∈ items)] :
    Collected content
      (if content item = [] ∨ item ∈ items then items else items ++ [item]) := by
  by_cases skipped : content item = [] ∨ item ∈ items
  · rw [if_pos skipped]
    exact collected
  · rw [if_neg skipped]
    obtain ⟨visible, fresh⟩ := not_or.mp skipped
    refine ⟨?_, List.nodup_append.mpr ⟨collected.nodup, by simp, ?_⟩⟩
    · intro other member
      rcases List.mem_append.mp member with old | new
      · exact collected.fragments other old
      · rw [List.mem_singleton.mp new]
        exact value.isFragment visible
    · intro other old new member same
      rw [List.mem_singleton.mp member] at same
      exact fresh (same ▸ old)

end Lists

/-- A list of fragments without repetition. -/
abbrev CollectedTexts (items : List Text) : Prop := Collected id items

/-- A list of conditions without repetition. -/
abbrev CollectedConditions (conditions : List Condition) : Prop := Collected Prod.snd conditions

theorem Collected.pushUnique {items : List Text} (collected : CollectedTexts items)
    (fragment : Text) : CollectedTexts (pushUnique items fragment) :=
  collected.append_unless fragment.trim (isValue_trim fragment)

theorem Collected.pushAll {items : List Text} (collected : CollectedTexts items)
    (fragments : List Text) : CollectedTexts (pushAll items fragments) := by
  rw [SqlText.pushAll]
  induction fragments generalizing items with
  | nil => exact collected
  | cons first rest ih => exact ih (collected.pushUnique first)

theorem Collected.pushJoins {items : List Text} (collected : CollectedTexts items) (word : Text)
    (texts : List Text) : CollectedTexts (pushJoins items word texts) :=
  collected.pushAll _

theorem Collected.pushRows {items : List Text} (collected : CollectedTexts items)
    (texts : List Text) : CollectedTexts (pushRows items texts) :=
  collected.pushAll _

theorem Collected.pushCondition {conditions : List Condition}
    (collected : CollectedConditions conditions) (operator : Operator) (fragment : Text) :
    CollectedConditions (pushCondition conditions operator fragment) :=
  collected.append_unless (operator, fragment.trim) (isValue_trim fragment)

theorem Collected.pushConditions {conditions : List Condition}
    (collected : CollectedConditions conditions) (operator : Operator) (fragments : List Text) :
    CollectedConditions (pushConditions conditions operator fragments) := by
  rw [SqlText.pushConditions]
  induction fragments generalizing conditions with
  | nil => exact collected
  | cons first rest ih => exact ih (collected.pushCondition operator first)

theorem Collected.pushAction {actions : List (AlterAction × Text)}
    (collected : Collected Prod.snd actions) (action : AlterAction) (texts : List Text) :
    Collected Prod.snd (pushAction actions action texts) :=
  collected.append_unless (action, newValue texts) (isValue_newValue texts)

/-- A target that is named is named by a fragment. -/
theorem newTarget_isFragment {τ : Type} (way : τ) (texts : List Text) :
    ∀ target ∈ newTarget way texts, target.2.IsFragment := by
  intro target member
  rw [newTarget] at member
  by_cases empty : newValue texts = []
  · rw [if_pos empty] at member
    cases member
  · rw [if_neg empty] at member
    cases member
    exact isFragment_trim empty

/-! ## Raw text -/

namespace RawText

variable {κ : Type} [DecidableEq κ]

/-- Raw text under the given keys only, with fragments under each that is there. -/
structure IsKept (keys : List κ) (raw : RawText κ) : Prop where
  keys : ∀ entry ∈ raw, entry.1 ∈ keys
  nonempty : ∀ entry ∈ raw, entry.2 ≠ []
  fragments : ∀ entry ∈ raw, ∀ text ∈ entry.2, text.IsFragment

omit [DecidableEq κ] in
theorem isKept_nil (keys : List κ) : IsKept keys ([] : RawText κ) :=
  ⟨by simp, by simp, by simp⟩

/-- What is added stands in an entry that was there or in a new one, both for the same key. -/
theorem mem_add {raw : RawText κ} {key : κ} {text : Text} {entry : κ × List Text}
    (member : entry ∈ raw.add key text) :
    entry ∈ raw ∨ entry.1 = key ∧ ∃ before : List Text,
      (before = [] ∨ (key, before) ∈ raw) ∧ entry.2 = before ++ [text] := by
  induction raw with
  | nil =>
      rw [add, List.mem_singleton] at member
      subst member
      exact .inr ⟨rfl, [], .inl rfl, rfl⟩
  | cons head rest ih =>
      obtain ⟨other, texts⟩ := head
      rw [add] at member
      by_cases same : other = key
      · rw [if_pos same] at member
        rcases List.mem_cons.mp member with rfl | later
        · refine .inr ⟨same, texts, .inr ?_, rfl⟩
          rw [← same]
          exact List.mem_cons_self
        · exact .inl (List.mem_cons_of_mem _ later)
      · rw [if_neg same] at member
        rcases List.mem_cons.mp member with rfl | later
        · exact .inl List.mem_cons_self
        · rcases ih later with old | ⟨here, before, place, shape⟩
          · exact .inl (List.mem_cons_of_mem _ old)
          · exact .inr ⟨here, before, place.imp_right (List.mem_cons_of_mem _), shape⟩

theorem IsKept.add {keys : List κ} {raw : RawText κ} (kept : IsKept keys raw) {key : κ}
    (known : key ∈ keys) {text : Text} (fragment : text.IsFragment) :
    IsKept keys (raw.add key text) := by
  refine ⟨?_, ?_, ?_⟩
  · intro entry member
    rcases mem_add member with old | ⟨here, -⟩
    · exact kept.keys entry old
    · exact here ▸ known
  · intro entry member
    rcases mem_add member with old | ⟨-, before, -, shape⟩
    · exact kept.nonempty entry old
    · rw [shape]
      exact List.append_ne_nil_of_right_ne_nil _ (List.cons_ne_nil _ _)
  · intro entry member other among
    rcases mem_add member with old | ⟨-, before, place, shape⟩
    · exact kept.fragments entry old other among
    · rw [shape] at among
      rcases List.mem_append.mp among with earlier | new
      · rcases place with rfl | old
        · cases earlier
        · exact kept.fragments _ old other earlier
      · rw [List.mem_singleton.mp new]
        exact fragment

theorem IsKept.pushAll {keys : List κ} {raw : RawText κ} (kept : IsKept keys raw) {key : κ}
    (known : key ∈ keys) (fragments : List Text) : IsKept keys (raw.pushAll key fragments) := by
  rw [RawText.pushAll]
  induction fragments generalizing raw with
  | nil => exact kept
  | cons first rest ih =>
      have one : IsKept keys (raw.push key first) := by
        rw [push]
        by_cases empty : first.trim = []
        · rw [if_pos empty]
          exact kept
        · rw [if_neg empty]
          exact kept.add known (isFragment_trim empty)
      exact ih one

theorem exists_entry_of_mem_get {raw : RawText κ} {key : κ} {text : Text}
    (member : text ∈ raw.get key) : ∃ texts, (key, texts) ∈ raw ∧ text ∈ texts := by
  rw [get] at member
  cases found : raw.lookup key with
  | none =>
      rw [found] at member
      cases member
  | some texts =>
      rw [found] at member
      obtain ⟨front, back, shape, -⟩ := List.lookup_eq_some_iff.mp found
      refine ⟨texts, ?_, member⟩
      rw [shape]
      exact List.mem_append_right _ List.mem_cons_self

/-- The raw text of a clause is fragments. -/
theorem IsKept.isFragment_of_mem_get {keys : List κ} {raw : RawText κ} (kept : IsKept keys raw)
    {key : κ} {text : Text} (member : text ∈ raw.get key) : text.IsFragment := by
  obtain ⟨texts, entry, among⟩ := exists_entry_of_mem_get member
  exact kept.fragments _ entry text among

end RawText
end SqlText
