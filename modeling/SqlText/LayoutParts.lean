import SqlText.Failure
import SqlText.Layout
import SqlText.Value

/-!
# The parts of a layout as they are given

Any value may be given for a part of a layout. Most of what is written needs no more of a part than
that it can be shown, so a statement is written in the layout of the shown parts
(`LayoutParts.shown`). Two things need more. What stands between texts that are put together has to
be a text itself: the separator of items that are there, and the terminator, which the space and
the line break make one after the other. And a layout that breaks lines nests only if its
separator and its line break can be followed by its indent.

So a part of the wrong type does no harm before the first place where it is needed, and where the
terminator is a text the nested parts are shown as the nested layout (`shown_nested`).
-/

set_option autoImplicit false

namespace SqlText

/-- What two values make one after the other: a longer text, a longer list, or a sum. -/
def Value.plus (first second : Value) : Except Failure Value :=
  match first, second with
  | .text before, .text after => .ok (.text (before ++ after))
  | .list before, .list after => .ok (.list (before ++ after))
  | first, second =>
      match first.number?, second.number? with
      | some before, some after => .ok (.int (before + after))
      | _, _ => .error .badArguments

/-- The text that a value has to be where it stands between texts that are put together. -/
def Value.joint (value : Value) : Except Failure Text :=
  match value with
  | .text between => .ok between
  | value => .error (.noAttribute value.typeName "join".toList)

/-- The parts of a layout as they are given. -/
structure LayoutParts where
  itemSeparator : Value
  lineBreak : Value
  indent : Value
  space : Value

namespace LayoutParts

/-- The parts of a layout. -/
def ofLayout (layout : Layout) : LayoutParts where
  itemSeparator := .text layout.itemSeparator
  lineBreak := .text layout.lineBreak
  indent := .text layout.indent
  space := .text layout.space

/-- The parts of the compact layout. -/
def compact : LayoutParts := ofLayout .compact

/-- The parts of the pretty layout. -/
def pretty : LayoutParts := ofLayout .pretty

/-- The layout that the parts are shown as. -/
def shown (given : LayoutParts) : Layout where
  itemSeparator := given.itemSeparator.shown
  lineBreak := given.lineBreak.shown
  indent := given.indent.shown
  space := given.space.shown

/-- Whether the parts break lines. -/
def isMultiline (given : LayoutParts) : Bool := given.lineBreak.holds

/-! ## What is needed of the parts -/

/-- The text between items. -/
def separator (given : LayoutParts) : Except Failure Text := given.itemSeparator.joint

/-- The text between words. -/
def spacer (given : LayoutParts) : Except Failure Text := given.space.joint

/-- The text at the end of every clause. -/
def terminator (given : LayoutParts) : Except Failure Text := do
  (← given.space.plus given.lineBreak).joint

/-- The parts of the layout one level deeper. -/
def nested (given : LayoutParts) : Except Failure LayoutParts :=
  if given.isMultiline then do
    pure
      { given with
        itemSeparator := ← given.itemSeparator.plus given.indent
        lineBreak := ← given.lineBreak.plus given.indent }
  else .ok given

/-- The parts of the layout one level deeper, or the same parts where they cannot be nested. -/
def inner (given : LayoutParts) : LayoutParts := given.nested.toOption.getD given

/-- The parts of the layout the given number of levels deeper. -/
def deeper (given : LayoutParts) : Nat → Except Failure LayoutParts
  | 0 => .ok given
  | levels + 1 => do (← given.deeper levels).nested

/-! ## Parts that are texts -/

/-- A layout is shown as itself. -/
theorem shown_ofLayout (layout : Layout) : (ofLayout layout).shown = layout := rfl

/-- The separator of a layout is a text. -/
theorem separator_ofLayout (layout : Layout) :
    (ofLayout layout).separator = .ok layout.itemSeparator := rfl

/-- The space of a layout is a text. -/
theorem spacer_ofLayout (layout : Layout) : (ofLayout layout).spacer = .ok layout.space := rfl

/-- The terminator of a layout is a text. -/
theorem terminator_ofLayout (layout : Layout) :
    (ofLayout layout).terminator = .ok layout.terminator := rfl

/-- The parts of a layout are nested as the layout is. -/
theorem nested_ofLayout (layout : Layout) :
    (ofLayout layout).nested = .ok (ofLayout layout.nested) := by
  cases breaks : layout.lineBreak with
  | nil => simp [LayoutParts.nested, Layout.nested, isMultiline, Layout.isMultiline, ofLayout,
      Value.holds, breaks]
  | cons first rest =>
      simp [LayoutParts.nested, Layout.nested, isMultiline, Layout.isMultiline, ofLayout,
        Value.holds, Value.plus, breaks, bind, Except.bind, pure, Except.pure]

/-- The parts of a layout one level deeper are those of the nested layout. -/
theorem inner_ofLayout (layout : Layout) :
    (ofLayout layout).inner = ofLayout layout.nested := by
  simp [inner, nested_ofLayout, Except.toOption]

/-- The parts of a layout are nested any number of times as the layout is. -/
theorem deeper_ofLayout (layout : Layout) (levels : Nat) :
    (ofLayout layout).deeper levels = .ok (ofLayout (layout.deeper levels)) := by
  induction levels with
  | zero => rfl
  | succ levels previous =>
      simp [LayoutParts.deeper, Layout.deeper, previous, bind, Except.bind, nested_ofLayout]

/-- What a text makes with another value after it is a text of both. -/
theorem plus_eq_text {first second : Value} {whole : Text}
    (made : first.plus second = .ok (.text whole)) :
    ∃ before after,
      first = .text before ∧ second = .text after ∧ whole = before ++ after := by
  unfold Value.plus at made
  split at made
  · cases made
    exact ⟨_, _, rfl, rfl, rfl⟩
  · cases made
  · split at made <;> cases made

/-- A value that can stand between texts is a text. -/
theorem joint_eq_ok {value : Value} {between : Text} (made : value.joint = .ok between) :
    value = .text between := by
  unfold Value.joint at made
  split at made
  · cases made
    rfl
  · cases made

/-- There is a terminator only where the space and the line break are texts. -/
theorem terminator_eq_ok {given : LayoutParts} {text : Text} (made : given.terminator = .ok text) :
    ∃ space lineBreak, given.space = .text space ∧ given.lineBreak = .text lineBreak ∧
      text = space ++ lineBreak := by
  unfold terminator at made
  cases sum : given.space.plus given.lineBreak with
  | error failure => simp [sum, bind, Except.bind] at made
  | ok value =>
      simp only [sum, bind, Except.bind] at made
      rw [joint_eq_ok made] at sum
      exact plus_eq_text sum

/-- Where there is a terminator, the nested parts are shown as the nested layout. -/
theorem shown_nested {given inner : LayoutParts} {text : Text}
    (ends : given.terminator = .ok text) (made : given.nested = .ok inner) :
    inner.shown = given.shown.nested := by
  obtain ⟨space, lineBreak, _, breaks, _⟩ := terminator_eq_ok ends
  obtain ⟨itemSeparator, _, indent, _⟩ := given
  subst breaks
  cases lineBreak with
  | nil =>
      simp only [LayoutParts.nested, isMultiline, Value.holds, List.isEmpty_nil, Bool.not_true,
        Bool.false_eq_true, if_false, Except.ok.injEq] at made
      subst made
      rfl
  | cons first rest =>
      cases indent <;> cases itemSeparator <;>
        simp_all [LayoutParts.nested, isMultiline, Value.holds, Value.plus, Value.number?,
          bind, Except.bind, pure, Except.pure, Layout.nested, Layout.isMultiline,
          LayoutParts.shown, Value.shown]
      all_goals subst made; simp

end LayoutParts
end SqlText
