import SqlText.Proofs.Invariant
import SqlText.Proofs.Joining
import SqlText.Render.Outline

/-!
# How the text of a clause opens and ends

What is written for a clause is nothing at all, or a fragment with the terminator behind it
(`Layout.IsSettled`). This goes for a single part (`Part.isSettled_render`), for the raw text around
it, and for clauses one after another (`Frame.isSettled_render`). It needs no more than that the
texts at the ends of a part are fragments (`Part.IsVisible`): the parentheses and semicolons that
are written around them are visible anyway. Only the actions of an ALTER TABLE do not open so, since
they are indented.

A settled text is what it is when it is trimmed, with the terminator behind it
(`Layout.IsSettled.terminated_trim`).
-/

set_option autoImplicit false

namespace SqlText

open Text

namespace Text

/-- A text that is left alone by trimming is a fragment. -/
theorem isFragment_of_trim_eq {text : Text} (trimmed : text.trim = text) (nonempty : text ≠ []) :
    IsFragment text := by
  rw [← trimmed] at nonempty ⊢
  exact isFragment_trim nonempty

/-- A word that is trimmed, which can be decided, is a fragment. -/
theorem isFragment_word {word : Text} (trimmed : word.trim = word ∧ word ≠ []) :
    IsFragment word :=
  isFragment_of_trim_eq trimmed.1 trimmed.2

theorem closes_parenthesis : Closes [')'] := ⟨[], ')', rfl, by decide⟩

/-- Whatever stands between parentheses, the whole is a fragment. -/
theorem isFragment_enclosed (text : Text) : IsFragment ('(' :: text ++ [')']) :=
  ⟨⟨'(', _, rfl, by decide⟩, closes_parenthesis.append _⟩

end Text

/-! ## Texts with the terminator behind them -/

namespace Layout

/-- A fragment with the terminator behind it, or nothing. -/
def IsSettled (layout : Layout) (text : Text) : Prop :=
  text = [] ∨ ∃ core, IsFragment core ∧ text = core ++ layout.terminator

variable {layout : Layout} {text other : Text}

theorem isSettled_nil (layout : Layout) : layout.IsSettled [] := .inl rfl

theorem isSettled_of_isFragment (layout : Layout) (fragment : IsFragment text) :
    layout.IsSettled (text ++ layout.terminator) :=
  .inr ⟨text, fragment, rfl⟩

theorem IsSettled.append (settled : layout.IsSettled text) (settled' : layout.IsSettled other) :
    layout.IsSettled (text ++ other) := by
  rcases settled with rfl | ⟨first, fragment, rfl⟩
  · exact settled'
  · rcases settled' with rfl | ⟨second, fragment', rfl⟩
    · rw [List.append_nil]
      exact layout.isSettled_of_isFragment fragment
    · have whole : IsFragment (first ++ layout.terminator ++ second) :=
        ⟨(fragment.opens.append _).append _, fragment'.closes.append _⟩
      rw [← List.append_assoc]
      exact layout.isSettled_of_isFragment whole

theorem isSettled_flatMap {α : Type} {items : List α} {write : α → Text}
    (settled : ∀ item ∈ items, layout.IsSettled (write item)) :
    layout.IsSettled (items.flatMap write) := by
  induction items with
  | nil => exact layout.isSettled_nil
  | cons first rest ih =>
      have others := ih fun item member => settled item (List.mem_cons_of_mem _ member)
      rw [List.flatMap_cons]
      exact (settled first List.mem_cons_self).append others

/-- What is trimmed has the terminator behind it. -/
theorem isSettled_terminated_trim (layout : Layout) (text : Text) :
    layout.IsSettled (layout.terminated text.trim) := by
  rw [terminated]
  split
  · exact isSettled_nil layout
  · rename_i visible
    exact isSettled_of_isFragment layout (isFragment_trim visible)

/-- A settled text is what it is when it is trimmed, with the terminator behind it. -/
theorem IsSettled.terminated_trim (settled : layout.IsSettled text) (space : AllBlank layout.space)
    (lineBreak : AllBlank layout.lineBreak) : layout.terminated text.trim = text := by
  rcases settled with rfl | ⟨core, fragment, rfl⟩
  · rfl
  · have blank : AllBlank layout.terminator := space.append lineBreak
    rw [fragment.trim_append blank, terminated, if_neg fragment.ne_nil]

/-- Fragments one after another, each with the terminator behind it. -/
theorem isSettled_rawText (layout : Layout) {fragments : List Text}
    (visible : ∀ text ∈ fragments, IsFragment text) :
    layout.IsSettled (layout.rawText fragments) := by
  rw [rawText, filter_ne_nil fun text member => (visible text member).ne_nil]
  by_cases isEmpty : fragments = []
  · rw [isEmpty]
    exact isSettled_nil layout
  · have joined : IsFragment (join layout.terminator fragments) := isFragment_join isEmpty visible
    rw [terminated, if_neg joined.ne_nil]
    exact isSettled_of_isFragment layout joined

theorem closes_conditionLines (layout : Layout) {conditions : List Condition}
    (nonempty : conditions ≠ []) (visible : ∀ condition ∈ conditions, IsFragment condition.2) :
    Closes (layout.conditionLines conditions) := by
  obtain ⟨first, rest, rfl⟩ := List.exists_cons_of_ne_nil nonempty
  have head := (visible first List.mem_cons_self).closes.append layout.indent
  refine head.append_flatMap fun condition member => ?_
  exact (visible condition (List.mem_cons_of_mem _ member)).closes.append _

end Layout

/-! ## Parts -/

namespace Part

/-- The part is not indented, and the texts that stand at its ends are fragments. -/
def IsVisible : Part → Prop
  | .words texts => ∀ word ∈ texts, IsFragment word
  | .list keyword items => IsFragment keyword ∧ ∀ item ∈ items, IsFragment item
  | .lines items => ∀ item ∈ items, IsFragment item
  | .conditions keyword entries =>
      IsFragment keyword ∧ ∀ condition ∈ entries, IsFragment condition.2
  | .enclosed keyword _ => IsValue keyword
  | .actions _ => False
  | .queries _ | .embedded _ | .parameters _ | .command _ => True

theorem isVisible_single {keyword value : Text} (word : IsFragment keyword)
    (trimmed : IsValue value) : (single keyword value).IsVisible := by
  rw [single]
  split
  · exact nofun
  · rename_i nonempty
    have words := List.forall_mem_cons.mpr ⟨word, List.forall_mem_singleton.mpr
      (trimmed.isFragment nonempty)⟩
    exact words

variable {part : Part} (layout : Layout)

theorem isSettled_renderQueries (nested : Layout) (entries : List (Text × Text)) :
    layout.IsSettled (renderQueries layout nested entries) := by
  rw [renderQueries]
  split
  · exact layout.isSettled_nil
  · rename_i nonempty
    refine layout.isSettled_of_isFragment ⟨⟨'W', _, rfl, by decide⟩, Closes.append ?_ _⟩
    refine closes_join (by simpa using nonempty) fun text member => ?_
    obtain ⟨query, -, rfl⟩ := List.mem_map.mp member
    exact closes_parenthesis.append _

/-- A visible part is written as a fragment with the terminator behind it, or as nothing. -/
theorem isSettled_render (visible : part.IsVisible) : layout.IsSettled (part.render layout) := by
  cases part with
  | words texts =>
      cases texts with
      | nil => exact layout.isSettled_nil
      | cons first rest =>
          exact layout.isSettled_of_isFragment (isFragment_join (List.cons_ne_nil _ _) visible)
  | list keyword items =>
      obtain ⟨word, fragments⟩ := visible
      rw [render, filter_ne_nil fun item member => (fragments item member).ne_nil]
      split
      · exact layout.isSettled_nil
      · have joined : IsFragment (join layout.itemSeparator items) :=
          isFragment_join (by assumption) fragments
        exact layout.isSettled_of_isFragment
          ⟨(word.opens.append _).append _, joined.closes.append _⟩
  | lines items =>
      cases items with
      | nil => exact layout.isSettled_nil
      | cons first rest =>
          exact layout.isSettled_of_isFragment (isFragment_join (List.cons_ne_nil _ _) visible)
  | conditions keyword entries =>
      obtain ⟨word, fragments⟩ := visible
      cases entries with
      | nil => exact layout.isSettled_nil
      | cons first rest =>
          have lines := layout.closes_conditionLines (List.cons_ne_nil first rest) fragments
          exact layout.isSettled_of_isFragment
            ⟨(word.opens.append _).append _, lines.append _⟩
  | enclosed keyword items =>
      cases items with
      | nil => exact layout.isSettled_nil
      | cons first rest =>
          have list := isFragment_enclosed (join layout.itemSeparator (first :: rest))
          have whole : IsFragment ((if keyword = [] then [] else keyword ++ layout.space) ++
              ('(' :: join layout.itemSeparator (first :: rest) ++ [')'])) := by
            split
            · exact list
            · rename_i nonempty
              have word := (visible.isFragment nonempty).opens
              exact ⟨(word.append _).append _, list.closes.append _⟩
          simpa only [render, List.append_assoc, List.cons_append, List.nil_append] using
            layout.isSettled_of_isFragment whole
  | actions entries => exact visible.elim
  | queries entries => exact isSettled_renderQueries layout layout.nested entries
  | embedded text => exact layout.isSettled_terminated_trim text
  | parameters groups =>
      rw [render]
      split
      · exact layout.isSettled_nil
      · have whole := isFragment_enclosed (layout.lineBreak ++ layout.indent ++
          join layout.nested.itemSeparator
            ((groups.map (ParameterGroup.render layout)).filter (· ≠ [])) ++ layout.lineBreak)
        simpa only [List.append_assoc, List.cons_append, List.nil_append] using
          layout.isSettled_of_isFragment whole
  | command text =>
      rw [render]
      split
      · exact layout.isSettled_nil
      · rename_i nonempty
        have whole : IsFragment (text.trim ++ [';']) :=
          ⟨(isFragment_trim nonempty).opens.append _, ⟨text.trim, ';', rfl, by decide⟩⟩
        simpa only [List.append_assoc, List.cons_append, List.nil_append] using
          layout.isSettled_of_isFragment whole

end Part

/-! ## Clauses one after another -/

theorem Segment.isSettled_render {kind : Kind} {frame : Frame} {clauses : List Clause}
    (framed : frame.IsValid clauses) {segment : Segment} (layout : Layout)
    (visible : segment.part.IsVisible) : layout.IsSettled (segment.render layout kind frame) := by
  have part := Part.isSettled_render layout visible
  cases segment with
  | clause place inside =>
      rw [Segment.render]
      split
      · have before : layout.IsSettled (layout.rawText (frame.before.get place)) :=
          layout.isSettled_rawText fun _ => framed.before.isFragment_of_mem_get
        have after : layout.IsSettled (layout.rawText (frame.after.get place)) :=
          layout.isSettled_rawText fun _ => framed.after.isFragment_of_mem_get
        exact (before.append part).append after
      · exact layout.isSettled_nil
  | free inside => exact part

theorem Frame.isSettled_render {kind : Kind} {frame : Frame} {clauses : List Clause}
    (framed : frame.IsValid clauses) {segments : List Segment} (layout : Layout)
    (visible : ∀ segment ∈ segments, segment.part.IsVisible) :
    layout.IsSettled (frame.render layout kind segments) := by
  have raw := layout.isSettled_rawText framed.raw.fragments
  exact raw.append (layout.isSettled_flatMap fun segment member =>
    Segment.isSettled_render framed layout (visible segment member))

/-! ## The words of an index -/

/-- The keywords in front of the name of an index. -/
def CreateIndexBody.headWords : List Text :=
  ["CREATE", "UNIQUE", "INDEX", "CONCURRENTLY", "IF", "NOT", "EXISTS"].map String.toList

/-- The words at the start of a CREATE INDEX are keywords and its name. -/
theorem CreateIndexBody.mem_head {body : CreateIndexBody} {word : Text}
    (member : word ∈ body.head) :
    word ∈ headWords ∨ word = body.name ∧ body.name ≠ [] := by
  rw [head] at member
  split at member
  · cases member
  · simp only [List.mem_append] at member
    rcases member with ((((first | unique) | index) | concurrently) | exists') | name
    · exact .inl (by rw [List.mem_singleton.mp first]; decide)
    · split at unique
      · exact .inl (by rw [List.mem_singleton.mp unique]; decide)
      · cases unique
    · exact .inl (by rw [List.mem_singleton.mp index]; decide)
    · split at concurrently
      · exact .inl (by rw [List.mem_singleton.mp concurrently]; decide)
      · cases concurrently
    · split at exists'
      · have listed : ∀ other ∈ ["IF".toList, "NOT".toList, "EXISTS".toList],
            other ∈ headWords := by decide
        exact .inl (listed word exists')
      · cases exists'
    · split at name
      · cases name
      · rename_i visible
        exact .inr ⟨List.mem_singleton.mp name, visible⟩

/-- The keywords in front of the table of an index. -/
def CreateIndexBody.tableKeywords : List Text := ["ON", "ONLY"].map String.toList

theorem CreateIndexBody.mem_tableWords {body : CreateIndexBody} {word : Text}
    (member : word ∈ body.tableWords) :
    word ∈ tableKeywords ∨ word = body.table ∧ body.table ≠ [] := by
  rw [tableWords] at member
  split at member
  · cases member
  · rename_i visible
    split at member
    · simp only [List.mem_cons, List.not_mem_nil, or_false] at member
      rcases member with rfl | rfl | rfl
      · exact .inl (by decide)
      · exact .inl (by decide)
      · exact .inr ⟨rfl, visible⟩
    · simp only [List.mem_cons, List.not_mem_nil, or_false] at member
      rcases member with rfl | rfl
      · exact .inl (by decide)
      · exact .inr ⟨rfl, visible⟩

end SqlText
