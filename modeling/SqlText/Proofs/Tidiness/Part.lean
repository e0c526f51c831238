import Mathlib.Data.List.Chain
import SqlText.Proofs.Ending
import SqlText.Proofs.Stored

/-!
# Texts with single spaces

A text is tidy if it is trimmed and no two blank characters are next to each other in it
(`Text.IsTidy`). A tidy text that is not empty is neat (`Text.IsNeat`). Between two neat texts there
is room for one more text without adjacent blank characters, such as a space, a comma with a space,
or a keyword between spaces. This is all that the separators of a rendering need.

In a flat layout (`Layout.IsFlat`), of which the compact one is the first example, a part that is
made of neat texts is written as a neat text with the terminator behind it, or as nothing
(`Part.isNeatlySettled_render`). The next part starts with a character that is not blank, so the
terminator is never doubled. The same is said of a clause with the raw text around it and of set
operations, which trim the text before them (`Combination.isNeatlySettled_render`).
-/

set_option autoImplicit false

namespace SqlText

/-! ## Texts -/

namespace Text

/-- No two blank characters are next to each other. -/
def IsSpaced (text : Text) : Prop :=
  text.IsChain fun first second => isBlank first = false ∨ isBlank second = false

instance (text : Text) : Decidable text.IsSpaced :=
  inferInstanceAs (Decidable (List.IsChain _ text))

/-- A trimmed text in which no two blank characters are next to each other. -/
structure IsTidy (text : Text) : Prop where
  trimmed : text.trim = text
  spaced : text.IsSpaced

instance (text : Text) : Decidable text.IsTidy :=
  decidable_of_iff (text.trim = text ∧ text.IsSpaced)
    ⟨fun both => ⟨both.1, both.2⟩, fun tidy => ⟨tidy.trimmed, tidy.spaced⟩⟩

/-- A fragment in which no two blank characters are next to each other. -/
structure IsNeat (text : Text) : Prop where
  fragment : IsFragment text
  spaced : text.IsSpaced

variable {text other gap : Text}

theorem isSpaced_nil : IsSpaced [] := List.isChain_nil

theorem isTidy_nil : IsTidy [] := ⟨rfl, isSpaced_nil⟩

theorem IsNeat.isTidy (neat : IsNeat text) : IsTidy text := ⟨neat.fragment.trim_eq, neat.spaced⟩

theorem IsTidy.isNeat (tidy : IsTidy text) (nonempty : text ≠ []) : IsNeat text :=
  ⟨isFragment_of_trim_eq tidy.trimmed nonempty, tidy.spaced⟩

/-- What is left of a text when it is trimmed is a piece of it. -/
theorem IsSpaced.isTidy_trim (spaced : IsSpaced text) : IsTidy text.trim := by
  refine ⟨trim_trim text, ?_⟩
  obtain ⟨front, -, whole⟩ := exists_eq_trimStart text
  obtain ⟨back, -, start⟩ := exists_eq_trimEnd text.trimStart
  rw [whole] at spaced
  have left : IsSpaced text.trimStart := spaced.right_of_append
  rw [start] at left
  exact left.left_of_append

/-! ### Texts one after another -/

theorem Closes.isSpaced_append (closes : Closes text) (first : IsSpaced text)
    (second : IsSpaced other) : IsSpaced (text ++ other) := by
  obtain ⟨rest, last, rfl, visible⟩ := closes
  refine first.append second fun c isLast _ _ => .inl ?_
  rw [List.getLast?_concat] at isLast
  rw [← Option.mem_some.mp isLast]
  exact visible

theorem Opens.isSpaced_append (opens : Opens other) (first : IsSpaced text)
    (second : IsSpaced other) : IsSpaced (text ++ other) := by
  obtain ⟨head, rest, rfl, visible⟩ := opens
  refine first.append second fun _ _ c isHead => .inr ?_
  rw [List.head?_cons] at isHead
  rw [← Option.mem_some.mp isHead]
  exact visible

/-- Two tidy texts may have one blank character between them, even if one of them is empty. -/
theorem IsTidy.isSpaced_between (first : IsTidy text) (between : IsSpaced gap)
    (second : IsTidy other) : IsSpaced (text ++ gap ++ other) := by
  have left : IsSpaced (text ++ gap) := by
    by_cases isEmpty : text = []
    · rwa [isEmpty]
    · exact (first.isNeat isEmpty).fragment.closes.isSpaced_append first.spaced between
  by_cases isEmpty : other = []
  · rwa [isEmpty, List.append_nil]
  · exact (second.isNeat isEmpty).fragment.opens.isSpaced_append left second.spaced

theorem IsNeat.append_between (first : IsNeat text) (between : IsSpaced gap)
    (second : IsNeat other) : IsNeat (text ++ gap ++ other) :=
  ⟨⟨(first.fragment.opens.append _).append _, second.fragment.closes.append _⟩,
    first.isTidy.isSpaced_between between second.isTidy⟩

/-- There may be blank characters on both sides of a neat text. -/
theorem IsNeat.isSpaced_around {front back : Text} (neat : IsNeat text) (before : IsSpaced front)
    (after : IsSpaced back) : IsSpaced (front ++ text ++ back) :=
  (neat.fragment.closes.append front).isSpaced_append
    (neat.fragment.opens.isSpaced_append before neat.spaced) after

theorem IsNeat.append (first : IsNeat text) (second : IsNeat other) : IsNeat (text ++ other) := by
  have whole := first.append_between isSpaced_nil second
  rwa [List.append_nil] at whole

/-- A neat text may be followed by others, each with something in front of it. -/
theorem IsNeat.append_flatMap {α : Type} {items : List α} {before after : α → Text}
    (neat : IsNeat text)
    (others : ∀ item ∈ items, IsSpaced (before item) ∧ IsNeat (after item)) :
    IsNeat (text ++ items.flatMap fun item => before item ++ after item) := by
  induction items generalizing text with
  | nil => rwa [List.flatMap_nil, List.append_nil]
  | cons first rest ih =>
      obtain ⟨⟨between, next⟩, remaining⟩ := List.forall_mem_cons.mp others
      have longer := ih (neat.append_between between next) remaining
      rw [List.flatMap_cons]
      simpa only [List.append_assoc] using longer

theorem isNeat_join {texts : List Text} (between : IsSpaced gap) (nonempty : texts ≠ [])
    (neat : ∀ text ∈ texts, IsNeat text) : IsNeat (join gap texts) := by
  obtain ⟨first, rest, rfl⟩ := List.exists_cons_of_ne_nil nonempty
  obtain ⟨head, others⟩ := List.forall_mem_cons.mp neat
  rw [join_cons]
  exact head.append_flatMap fun item member => ⟨between, others item member⟩

theorem isTidy_join {texts : List Text} (between : IsSpaced gap)
    (neat : ∀ text ∈ texts, IsNeat text) : IsTidy (join gap texts) := by
  by_cases isEmpty : texts = []
  · rw [isEmpty]
    exact isTidy_nil
  · exact (isNeat_join between isEmpty neat).isTidy

/-- Of tidy texts those that are not empty are neat. -/
theorem isNeat_of_mem_filter {texts : List Text} (tidy : ∀ text ∈ texts, IsTidy text) :
    ∀ text ∈ texts.filter (· ≠ []), IsNeat text := by
  intro text member
  obtain ⟨among, nonempty⟩ := List.mem_filter.mp member
  exact (tidy text among).isNeat (of_decide_eq_true nonempty)

/-! ### Words and parentheses -/

/-- Of a word it can be decided whether it is neat. -/
theorem isNeat_word {word : Text} (plain : IsTidy word ∧ word ≠ []) : IsNeat word :=
  plain.1.isNeat plain.2

theorem isNeat_enclosed (spaced : IsSpaced text) : IsNeat ('(' :: text ++ [')']) := by
  refine ⟨isFragment_enclosed text, ?_⟩
  have opened : IsSpaced (['('] ++ text) :=
    Closes.isSpaced_append ⟨[], '(', rfl, by decide⟩ (List.isChain_singleton _) spaced
  exact Opens.isSpaced_append ⟨')', [], rfl, by decide⟩ opened (List.isChain_singleton _)

theorem IsNeat.parenthesized (neat : IsNeat text) : IsNeat text.parenthesized := by
  rw [Text.parenthesized]
  split
  · exact neat
  · exact isNeat_enclosed neat.spaced

end Text

open Text

/-! ## Flat layouts -/

namespace Layout

/-- A layout that does not indent and in which no clause ends with more than one blank
character. -/
structure IsFlat (layout : Layout) : Prop where
  indent : layout.indent = []
  space : AllBlank layout.space
  lineBreak : AllBlank layout.lineBreak
  terminator : IsSpaced layout.terminator
  itemSeparator : IsSpaced layout.itemSeparator

theorem isFlat_compact : compact.IsFlat := ⟨rfl, by decide, by decide, by decide, by decide⟩

variable {layout : Layout} {text other : Text}

namespace IsFlat

variable (flat : layout.IsFlat)
include flat

theorem isSpaced_space : IsSpaced layout.space := flat.terminator.left_of_append

theorem isSpaced_lineBreak : IsSpaced layout.lineBreak := flat.terminator.right_of_append

theorem nested_eq : layout.nested = layout := by
  rw [Layout.nested]
  split
  · rw [flat.indent, List.append_nil, List.append_nil, ← flat.indent]
  · rfl

end IsFlat

/-- A neat text with the terminator behind it, or nothing. -/
def IsNeatlySettled (layout : Layout) (text : Text) : Prop :=
  text = [] ∨ ∃ core, IsNeat core ∧ text = core ++ layout.terminator

theorem isNeatlySettled_nil (layout : Layout) : layout.IsNeatlySettled [] := .inl rfl

theorem isNeatlySettled_of_isNeat (layout : Layout) (neat : IsNeat text) :
    layout.IsNeatlySettled (text ++ layout.terminator) :=
  .inr ⟨text, neat, rfl⟩

theorem IsNeatlySettled.isSpaced (settled : layout.IsNeatlySettled text) (flat : layout.IsFlat) :
    IsSpaced text := by
  rcases settled with rfl | ⟨core, neat, rfl⟩
  · exact isSpaced_nil
  · exact neat.fragment.closes.isSpaced_append neat.spaced flat.terminator

theorem IsNeatlySettled.isTidy_trimEnd (settled : layout.IsNeatlySettled text)
    (flat : layout.IsFlat) : IsTidy text.trimEnd := by
  rcases settled with rfl | ⟨core, neat, rfl⟩
  · exact isTidy_nil
  · have blank : AllBlank layout.terminator := flat.space.append flat.lineBreak
    rw [neat.fragment.closes.trimEnd_append blank]
    exact neat.isTidy

theorem isNeatlySettled_terminated (layout : Layout) (tidy : IsTidy text) :
    layout.IsNeatlySettled (layout.terminated text) := by
  rw [terminated]
  split
  · exact isNeatlySettled_nil layout
  · exact isNeatlySettled_of_isNeat layout (tidy.isNeat (by assumption))

section Flat

variable (flat : layout.IsFlat)
include flat

theorem IsNeatlySettled.append (settled : layout.IsNeatlySettled text)
    (settled' : layout.IsNeatlySettled other) : layout.IsNeatlySettled (text ++ other) := by
  rcases settled with rfl | ⟨first, neat, rfl⟩
  · exact settled'
  · rcases settled' with rfl | ⟨second, neat', rfl⟩
    · rw [List.append_nil]
      exact layout.isNeatlySettled_of_isNeat neat
    · rw [← List.append_assoc]
      exact layout.isNeatlySettled_of_isNeat (neat.append_between flat.terminator neat')

theorem isNeatlySettled_flatMap {α : Type} {items : List α} {write : α → Text}
    (settled : ∀ item ∈ items, layout.IsNeatlySettled (write item)) :
    layout.IsNeatlySettled (items.flatMap write) := by
  induction items with
  | nil => exact layout.isNeatlySettled_nil
  | cons first rest ih =>
      obtain ⟨head, others⟩ := List.forall_mem_cons.mp settled
      rw [List.flatMap_cons]
      exact head.append flat (ih others)

theorem isNeatlySettled_rawText {fragments : List Text}
    (neat : ∀ text ∈ fragments, IsNeat text) :
    layout.IsNeatlySettled (layout.rawText fragments) := by
  rw [rawText, filter_ne_nil fun text member => (neat text member).fragment.ne_nil]
  exact layout.isNeatlySettled_terminated (isTidy_join flat.terminator neat)

theorem isNeatlySettled_wrapped {before after : List Text}
    (neatBefore : ∀ text ∈ before, IsNeat text) (settled : layout.IsNeatlySettled text)
    (neatAfter : ∀ text ∈ after, IsNeat text) :
    layout.IsNeatlySettled (layout.wrapped before text after) :=
  ((isNeatlySettled_rawText flat neatBefore).append flat settled).append flat
    (isNeatlySettled_rawText flat neatAfter)

theorem isNeat_conditionLines {conditions : List Condition} (nonempty : conditions ≠ [])
    (neat : ∀ condition ∈ conditions, IsNeat condition.2) :
    IsNeat (layout.conditionLines conditions) := by
  obtain ⟨⟨operator, first⟩, rest, rfl⟩ := List.exists_cons_of_ne_nil nonempty
  obtain ⟨head, others⟩ := List.forall_mem_cons.mp neat
  have word (operator : Operator) : IsNeat operator.word := by
    cases operator <;> exact isNeat_word (by decide)
  rw [conditionLines, flat.indent]
  simp only [List.append_nil, List.nil_append]
  refine head.append_flatMap fun condition member => ⟨?_, others condition member⟩
  exact (word condition.1).isSpaced_around flat.terminator flat.isSpaced_space

end Flat

end Layout

/-! ## Parts -/

/-- A group of neat texts, each entry with at least one of them. -/
structure ParameterGroup.IsNeat (group : ParameterGroup) : Prop where
  before : ∀ text ∈ group.before, Text.IsNeat text
  entries : ∀ entry ∈ group.entries, entry ≠ [] ∧ ∀ word ∈ entry, Text.IsNeat word
  after : ∀ text ∈ group.after, Text.IsNeat text

theorem ParameterGroup.IsNeat.isTidy_render {group : ParameterGroup} (neat : group.IsNeat)
    {layout : Layout} (flat : layout.IsFlat) : IsTidy (group.render layout) := by
  have space := flat.isSpaced_space
  have entries : ∀ text ∈ group.entries.map (Text.join layout.space), Text.IsNeat text := by
    intro text member
    obtain ⟨entry, among, rfl⟩ := List.mem_map.mp member
    exact isNeat_join space (neat.entries entry among).1 (neat.entries entry among).2
  rw [render, flat.nested_eq]
  refine isTidy_join space (isNeat_of_mem_filter ?_)
  simp only [List.forall_mem_cons]
  exact ⟨isTidy_join space neat.before, isTidy_join flat.itemSeparator entries,
    isTidy_join space neat.after, List.forall_mem_nil _⟩

namespace Part

/-- The part is made of neat texts. What it trims itself need not be trimmed. -/
def IsNeat : Part → Prop
  | .words texts => ∀ word ∈ texts, Text.IsNeat word
  | .list keyword items => Text.IsNeat keyword ∧ ∀ item ∈ items, Text.IsNeat item
  | .lines items => ∀ item ∈ items, Text.IsNeat item
  | .conditions keyword entries =>
      Text.IsNeat keyword ∧ ∀ condition ∈ entries, Text.IsNeat condition.2
  | .enclosed keyword items => IsTidy keyword ∧ ∀ item ∈ items, Text.IsNeat item
  | .actions entries => ∀ action ∈ entries, Text.IsNeat action.1 ∧ Text.IsNeat action.2
  | .queries entries => ∀ query ∈ entries, Text.IsNeat query.1 ∧ IsSpaced query.2
  | .embedded text | .command text => IsSpaced text
  | .parameters groups => ∀ group ∈ groups, group.IsNeat

theorem isNeat_single {keyword value : Text} (word : Text.IsNeat keyword)
    (neat : ∀ text ∈ value.unlessEmpty, Text.IsNeat text) : (single keyword value).IsNeat := by
  rw [single]
  split
  · exact List.forall_mem_nil _
  · rename_i nonempty
    have content : Text.IsNeat value := neat value (mem_unlessEmpty nonempty)
    exact List.forall_mem_cons.mpr ⟨word, List.forall_mem_singleton.mpr content⟩

theorem isNeat_flag {keyword : Text} (word : Text.IsNeat keyword) (isSet : Bool) :
    (flag keyword isSet).IsNeat := by
  cases isSet with
  | false => exact List.forall_mem_nil _
  | true => exact List.forall_mem_singleton.mpr word

theorem isNeat_targetPart {τ : Type} [DecidableEq τ] {word : τ → Text}
    {target : Option (τ × Text)} {way : τ} (keyword : Text.IsNeat (word way))
    (neat : ∀ text ∈ targetTexts target way, Text.IsNeat text) :
    (targetPart word target way).IsNeat := by
  cases target with
  | none => exact List.forall_mem_nil _
  | some named =>
      obtain ⟨used, text⟩ := named
      refine isNeat_single keyword fun other member => ?_
      by_cases same : used = way
      · rw [if_pos same] at member
        obtain rfl : other = text := by
          rw [unlessEmpty] at member
          split at member
          · cases member
          · exact List.mem_singleton.mp member
        exact neat other (by simp [targetTexts, same])
      · rw [if_neg same] at member
        cases member

variable {layout : Layout} (flat : layout.IsFlat)
include flat

/-- The line breaks stand between a parenthesis and the text inside. -/
theorem isNeat_renderQuery {name text : Text} (named : Text.IsNeat name) (neat : Text.IsNeat text) :
    Text.IsNeat (renderQuery layout layout name text) := by
  have word : Text.IsNeat "AS".toList := isNeat_word (by decide)
  have inside : Text.IsNeat ('(' :: (layout.lineBreak ++ text ++ layout.lineBreak) ++ [')']) :=
    isNeat_enclosed (neat.isSpaced_around flat.isSpaced_lineBreak flat.isSpaced_lineBreak)
  have whole := (named.append_between flat.isSpaced_space word).append_between
    flat.isSpaced_space inside
  simpa only [renderQuery, List.append_assoc, List.cons_append] using whole

theorem isNeatlySettled_renderQueries {entries : List (Text × Text)}
    (neat : ∀ query ∈ entries, Text.IsNeat query.1 ∧ IsSpaced query.2) :
    layout.IsNeatlySettled (renderQueries layout layout entries) := by
  have each : ∀ query ∈ (entries.map fun query => (query.1, query.2.trim)).filter (·.2 ≠ []),
      Text.IsNeat query.1 ∧ Text.IsNeat query.2 := by
    intro query member
    obtain ⟨among, nonempty⟩ := List.mem_filter.mp member
    obtain ⟨entry, inside, rfl⟩ := List.mem_map.mp among
    obtain ⟨name, spaced⟩ := neat entry inside
    exact ⟨name, spaced.isTidy_trim.isNeat (of_decide_eq_true nonempty)⟩
  rw [renderQueries]
  split
  · exact layout.isNeatlySettled_nil
  · rename_i nonempty
    have word : Text.IsNeat "WITH".toList := isNeat_word (by decide)
    refine layout.isNeatlySettled_of_isNeat (word.append_between flat.terminator ?_)
    refine isNeat_join flat.itemSeparator (by simpa using nonempty) fun text member => ?_
    obtain ⟨query, among, rfl⟩ := List.mem_map.mp member
    exact isNeat_renderQuery flat (each query among).1 (each query among).2

/-- A part of neat texts is written as a neat text with the terminator behind it, or as nothing. -/
theorem isNeatlySettled_render {part : Part} (neat : part.IsNeat) :
    layout.IsNeatlySettled (part.render layout) := by
  have space := flat.isSpaced_space
  cases part with
  | words texts =>
      cases texts with
      | nil => exact layout.isNeatlySettled_nil
      | cons first rest =>
          exact layout.isNeatlySettled_of_isNeat (isNeat_join space (List.cons_ne_nil _ _) neat)
  | list keyword items =>
      obtain ⟨word, items'⟩ := neat
      rw [render, filter_ne_nil fun item member => (items' item member).fragment.ne_nil]
      split
      · exact layout.isNeatlySettled_nil
      · exact layout.isNeatlySettled_of_isNeat
          (word.append_between space (isNeat_join flat.itemSeparator (by assumption) items'))
  | lines items =>
      cases items with
      | nil => exact layout.isNeatlySettled_nil
      | cons first rest =>
          exact layout.isNeatlySettled_of_isNeat
            (isNeat_join flat.terminator (List.cons_ne_nil _ _) neat)
  | conditions keyword entries =>
      obtain ⟨word, conditions⟩ := neat
      cases entries with
      | nil => exact layout.isNeatlySettled_nil
      | cons first rest =>
          have lines := Layout.isNeat_conditionLines flat (List.cons_ne_nil first rest) conditions
          exact layout.isNeatlySettled_of_isNeat (word.append_between flat.terminator lines)
  | enclosed keyword items =>
      obtain ⟨word, items'⟩ := neat
      cases items with
      | nil => exact layout.isNeatlySettled_nil
      | cons first rest =>
          have list := isNeat_enclosed
            (isNeat_join flat.itemSeparator (List.cons_ne_nil first rest) items').spaced
          have whole : Text.IsNeat ((if keyword = [] then [] else keyword ++ layout.space) ++
              ('(' :: join layout.itemSeparator (first :: rest) ++ [')'])) := by
            split
            · exact list
            · rename_i nonempty
              exact (word.isNeat nonempty).append_between space list
          simpa only [render, List.append_assoc, List.cons_append, List.nil_append] using
            layout.isNeatlySettled_of_isNeat whole
  | actions entries =>
      cases entries with
      | nil => exact layout.isNeatlySettled_nil
      | cons first rest =>
          rw [render, flat.indent]
          · refine layout.isNeatlySettled_of_isNeat
              (isNeat_join flat.itemSeparator (List.cons_ne_nil _ _) fun text member => ?_)
            obtain ⟨⟨keyword, value⟩, among, rfl⟩ := List.mem_map.mp member
            exact (neat _ among).1.append_between space (neat _ among).2
          · intro isEmpty
            cases isEmpty
  | queries entries =>
      rw [render, flat.nested_eq]
      exact isNeatlySettled_renderQueries flat neat
  | embedded text => exact layout.isNeatlySettled_terminated (IsSpaced.isTidy_trim neat)
  | parameters groups =>
      have texts : ∀ text ∈ groups.map (ParameterGroup.render layout), IsTidy text := by
        intro text member
        obtain ⟨group, among, rfl⟩ := List.mem_map.mp member
        exact (neat group among).isTidy_render flat
      rw [render, flat.nested_eq, flat.indent]
      split
      · exact layout.isNeatlySettled_nil
      · rename_i nonempty
        have list := isNeat_join flat.itemSeparator (by simpa using nonempty)
          (isNeat_of_mem_filter texts)
        have whole := isNeat_enclosed
          (list.isSpaced_around flat.isSpaced_lineBreak flat.isSpaced_lineBreak)
        simpa only [List.append_assoc, List.cons_append, List.nil_append, List.append_nil] using
          layout.isNeatlySettled_of_isNeat whole
  | command text =>
      rw [render]
      split
      · exact layout.isNeatlySettled_nil
      · rename_i nonempty
        have semicolon : Text.IsNeat [';'] := isNeat_word (by decide)
        have whole := ((IsSpaced.isTidy_trim neat).isNeat nonempty).append semicolon
        simpa only [List.append_assoc, List.cons_append, List.nil_append] using
          layout.isNeatlySettled_of_isNeat whole

end Part

/-! ## Clauses one after another -/

/-- All raw text of the frame is neat. -/
structure Frame.IsNeat (frame : Frame) : Prop where
  raw : ∀ text ∈ frame.raw, Text.IsNeat text
  before : ∀ clause, ∀ text ∈ frame.before.get clause, Text.IsNeat text
  after : ∀ clause, ∀ text ∈ frame.after.get clause, Text.IsNeat text

section Frames

variable {frame : Frame} {layout : Layout} (flat : layout.IsFlat) (framed : frame.IsNeat)
include flat framed

theorem Segment.isNeatlySettled_render (kind : Kind) {segment : Segment}
    (neat : segment.part.IsNeat) : layout.IsNeatlySettled (segment.render layout kind frame) := by
  have part := Part.isNeatlySettled_render flat neat
  cases segment with
  | clause place inside =>
      rw [Segment.render]
      split
      · exact Layout.isNeatlySettled_wrapped flat (framed.before place) part (framed.after place)
      · exact layout.isNeatlySettled_nil
  | free inside => exact part

theorem Frame.isNeatlySettled_render (kind : Kind) {segments : List Segment}
    (neat : ∀ segment ∈ segments, segment.part.IsNeat) :
    layout.IsNeatlySettled (frame.render layout kind segments) := by
  have raw := Layout.isNeatlySettled_rawText flat framed.raw
  exact raw.append flat (Layout.isNeatlySettled_flatMap flat fun segment member =>
    Segment.isNeatlySettled_render flat framed kind (neat segment member))

end Frames

/-! ## Set operations -/

namespace Combination

variable {κ : Type} [DecidableEq κ]

/-- The keywords and the raw text of all keys are neat. -/
structure IsNeat (combination : Combination κ) : Prop where
  keyword : ∀ key, Text.IsNeat (combination.keyword key)
  before : ∀ key, ∀ text ∈ combination.before key, Text.IsNeat text
  after : ∀ key, ∀ text ∈ combination.after key, Text.IsNeat text

variable {layout : Layout} (flat : layout.IsFlat)
include flat

theorem isNeatlySettled_combined {keyword left right : Text} (word : Text.IsNeat keyword)
    (first : IsTidy left) (second : IsTidy right) :
    layout.IsNeatlySettled (layout.combined keyword left right) := by
  rw [Layout.combined]
  split
  · exact layout.isNeatlySettled_terminated second
  · split
    · exact layout.isNeatlySettled_terminated first
    · have front := (isNeat_enclosed first.spaced).append_between flat.terminator word
      have both := front.append_between flat.isSpaced_space (isNeat_enclosed second.spaced)
      simpa only [List.append_assoc, List.cons_append, List.nil_append] using
        layout.isNeatlySettled_of_isNeat both

variable {combination : Combination κ} (neat : combination.IsNeat)
include neat

/-- The raw text before a kind is put behind the text so far, before the whole is trimmed. -/
theorem isTidy_leftSide (seen : List κ) {text : Text} (spaced : IsSpaced text) (key : κ) :
    IsTidy (combination.leftSide layout seen text key) := by
  rw [leftSide]
  split
  · exact spaced.isTidy_trim
  · have raw := isTidy_join flat.isSpaced_space (neat.before key)
    exact (spaced.isTidy_trim.isSpaced_between flat.isSpaced_space raw).isTidy_trim

theorem isNeatlySettled_step (seen later : List κ) {text operand : Text}
    (spaced : IsSpaced text) (key : κ) (inside : IsSpaced operand) :
    layout.IsNeatlySettled (combination.step layout seen later text key operand) := by
  have both := isNeatlySettled_combined flat (neat.keyword key)
    (isTidy_leftSide flat neat seen spaced key) inside.isTidy_trim
  rw [step]
  split
  · exact both
  · exact both.append flat (Layout.isNeatlySettled_rawText flat (neat.after key))

theorem isNeatlySettled_apply (seen : List κ) {text : Text} {operations : List (κ × Text)}
    (settled : layout.IsNeatlySettled text)
    (inside : ∀ operation ∈ operations, IsSpaced operation.2) :
    layout.IsNeatlySettled (combination.apply layout seen text operations) := by
  -- A step trims the text so far, so it needs no more of it than single spaces.
  induction operations generalizing seen text with
  | nil => exact settled
  | cons first rest ih =>
      obtain ⟨key, operand⟩ := first
      obtain ⟨head, others⟩ := List.forall_mem_cons.mp inside
      rw [apply]
      exact ih (key :: seen)
        (isNeatlySettled_step flat neat seen _ (settled.isSpaced flat) key head) others

/-- Texts combined by set operations are written as a neat text with the terminator behind it, or as
nothing. -/
theorem isNeatlySettled_render (keys : List κ) {text : Text} {operations : List (κ × Text)}
    (settled : layout.IsNeatlySettled text)
    (inside : ∀ operation ∈ operations, IsSpaced operation.2) :
    layout.IsNeatlySettled (combination.render layout keys text operations) := by
  refine (isNeatlySettled_apply flat neat [] settled inside).append flat ?_
  refine Layout.isNeatlySettled_flatMap flat fun key _ => ?_
  rw [unused]
  split
  · exact layout.isNeatlySettled_nil
  · exact Layout.isNeatlySettled_wrapped flat (neat.before key) layout.isNeatlySettled_nil
      (neat.after key)

end Combination

end SqlText
