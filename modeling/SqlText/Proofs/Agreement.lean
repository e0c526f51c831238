import SqlText.Proofs.Correspondence.Statement

/-!
# Layouts agree up to blank characters

The visible text is what is left when every blank character is deleted, not only those around a
text. A layout is blank when its texts are, but for the item separator. Two blank layouts whose
item separators have the same visible text write the same visible text of every statement that
comes about (`Statement.Reachable.visible_render_eq`): no clause, operand, separator, keyword or
parenthesis is there in one of them and missing in the other. The compact and the pretty layout
are such, at every level.

Visible texts are one of the correspondences that renderings respect: trimming keeps the visible
text, and nothing is left of a text exactly when its visible text is empty.
-/

set_option autoImplicit false

namespace SqlText

/-! ## Visible texts -/

namespace Text

/-- The characters of a text that are not blank. -/
def visible (text : Text) : Text := text.filter fun c => !isBlank c

theorem visible_append (first second : Text) :
    visible (first ++ second) = first.visible ++ second.visible :=
  List.filter_append ..

theorem visible_eq_nil_iff {text : Text} : text.visible = [] ↔ AllBlank text := by
  simp only [visible, List.filter_eq_nil_iff, AllBlank, Bool.not_eq_true', Bool.not_eq_false]

theorem visible_trimEnd (text : Text) : text.trimEnd.visible = text.visible := by
  obtain ⟨back, blank, whole⟩ := exists_eq_trimEnd text
  conv_rhs => rw [whole]
  rw [visible_append, visible_eq_nil_iff.mpr blank, List.append_nil]

theorem visible_trim (text : Text) : text.trim.visible = text.visible := by
  obtain ⟨front, blank, whole⟩ := exists_eq_trimStart text
  rw [trim, visible_trimEnd]
  conv_rhs => rw [whole]
  rw [visible_append, visible_eq_nil_iff.mpr blank, List.nil_append]

end Text

open Text

/-! ## Blank layouts -/

namespace Layout

/-- A layout with nothing visible but in its item separator. -/
structure IsBlank (layout : Layout) : Prop where
  lineBreak : AllBlank layout.lineBreak
  indent : AllBlank layout.indent
  space : AllBlank layout.space

variable {layout : Layout}

theorem IsBlank.nested (blank : layout.IsBlank) : layout.nested.IsBlank := by
  rw [Layout.nested]
  split
  · exact { blank with lineBreak := blank.lineBreak.append blank.indent }
  · exact blank

/-- The items of a list are separated by the same visible text at the next level. -/
theorem IsBlank.visible_itemSeparator_nested (blank : layout.IsBlank) :
    layout.nested.itemSeparator.visible = layout.itemSeparator.visible := by
  rw [Layout.nested]
  split
  · have indent : layout.indent.visible = [] := visible_eq_nil_iff.mpr blank.indent
    rw [visible_append, indent, List.append_nil]
  · rfl

theorem IsBlank.deeper (blank : layout.IsBlank) (levels : Nat) :
    (layout.deeper levels).IsBlank := by
  induction levels with
  | zero => exact blank
  | succ levels ih => exact ih.nested

theorem IsBlank.visible_itemSeparator_deeper (blank : layout.IsBlank) (levels : Nat) :
    (layout.deeper levels).itemSeparator.visible = layout.itemSeparator.visible := by
  induction levels with
  | zero => rfl
  | succ levels ih => exact (blank.deeper levels).visible_itemSeparator_nested.trans ih

theorem isBlank_compact : compact.IsBlank := by
  constructor <;> decide

theorem isBlank_pretty : pretty.IsBlank := by
  constructor <;> decide

/-- The layouts that there are without making one up: the compact and the pretty one, at any level
of nesting. -/
def IsStandard (layout : Layout) : Prop :=
  ∃ levels, layout = compact.deeper levels ∨ layout = pretty.deeper levels

theorem IsStandard.isBlank (standard : layout.IsStandard) : layout.IsBlank := by
  obtain ⟨levels, rfl | rfl⟩ := standard
  · exact isBlank_compact.deeper levels
  · exact isBlank_pretty.deeper levels

theorem IsStandard.visible_itemSeparator (standard : layout.IsStandard) :
    layout.itemSeparator.visible = ",".toList := by
  obtain ⟨levels, rfl | rfl⟩ := standard
  · rw [isBlank_compact.visible_itemSeparator_deeper]
    decide
  · rw [isBlank_pretty.visible_itemSeparator_deeper]
    decide

end Layout

/-! ## Agreement -/

/-- Texts with the same visible text, and blank layouts whose item separators have. -/
def agreement : Correspondence where
  texts a b := a.visible = b.visible
  layouts f g := f.IsBlank ∧ g.IsBlank ∧ f.itemSeparator.visible = g.itemSeparator.visible
  keyword _ := rfl
  append first second := by rw [visible_append, visible_append, first, second]
  parentheses inside := by
    rw [visible_append, visible_append, ← List.singleton_append, visible_append, inside,
      ← visible_append, List.singleton_append]
  trim same := by rw [visible_trim, visible_trim, same]
  trimEnd same := by rw [visible_trimEnd, visible_trimEnd, same]
  trim_eq_nil same := by
    rw [trim_eq_nil_iff, trim_eq_nil_iff, ← visible_eq_nil_iff, ← visible_eq_nil_iff, same]
  itemSeparator layouts := layouts.2.2
  lineBreak layouts := by
    rw [visible_eq_nil_iff.mpr layouts.1.lineBreak, visible_eq_nil_iff.mpr layouts.2.1.lineBreak]
  indent layouts := by
    rw [visible_eq_nil_iff.mpr layouts.1.indent, visible_eq_nil_iff.mpr layouts.2.1.indent]
  space layouts := by
    rw [visible_eq_nil_iff.mpr layouts.1.space, visible_eq_nil_iff.mpr layouts.2.1.space]
  nested layouts := by
    obtain ⟨first, second, same⟩ := layouts
    refine ⟨first.nested, second.nested, ?_⟩
    rw [first.visible_itemSeparator_nested, second.visible_itemSeparator_nested, same]

/-- Whatever comes about has the same visible text in all blank layouts with the same visible item
separator, and so in all standard layouts. -/
theorem Statement.Reachable.visible_render_eq {statement : Statement}
    (reachable : statement.Reachable) :
    (∀ f g : Layout, f.IsBlank → g.IsBlank → f.itemSeparator.visible = g.itemSeparator.visible →
      (statement.render f).visible = (statement.render g).visible) ∧
    ∀ f g : Layout, f.IsStandard → g.IsStandard →
      (statement.render f).visible = (statement.render g).visible := by
  have fixed : statement.EveryText agreement.Fixes :=
    reachable.isValid.mono fun _ _ _ _ => rfl
  have agree : ∀ f g : Layout, f.IsBlank → g.IsBlank →
      f.itemSeparator.visible = g.itemSeparator.visible →
      (statement.render f).visible = (statement.render g).visible := by
    intro f g first second same
    exact agreement.statement reachable fixed ⟨first, second, same⟩
  refine ⟨agree, ?_⟩
  intro f g first second
  refine agree f g first.isBlank second.isBlank ?_
  rw [first.visible_itemSeparator, second.visible_itemSeparator]

theorem Statement.visible_render_united : united.Reachable ∧
    (united.render (Layout.pretty.deeper 2)).visible = (united.render Layout.compact).visible := by
  refine ⟨reachable_united, ?_⟩
  refine (Reachable.visible_render_eq reachable_united).2 _ _ ?_ ?_
  · exact ⟨2, .inr rfl⟩
  · exact ⟨0, .inl rfl⟩

end SqlText
