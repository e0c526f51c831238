import SqlText.Proofs.Correspondence.Basic

/-!
# Parts that correspond

The parts of a statement are the same in every layout but for the texts of the statements inside
it. `Correspondence.Parts` says which parts correspond, constructor by constructor, and
`Correspondence.part` that they are written as corresponding texts. The same is said of the segments
of a statement and of the combination of its set operations.

A group of parameters is empty in one layout exactly when it is in another, because its entries and
its raw text are never empty (`ParameterGroup.IsVisible`).
-/

set_option autoImplicit false

namespace SqlText

open Text

/-! ## Groups of parameters -/

namespace ParameterGroup

/-- Raw text and entries that can be seen in every layout. -/
structure IsVisible (group : ParameterGroup) : Prop where
  before : ∀ text ∈ group.before, text ≠ []
  entries : ∀ entry ∈ group.entries, ∃ first rest, entry = first :: rest ∧ first ≠ []
  after : ∀ text ∈ group.after, text ≠ []

variable {group : ParameterGroup} (visible : group.IsVisible)
include visible

theorem IsVisible.entries_ne_nil (layout : Layout) :
    ∀ text ∈ group.entries.map (Text.join layout.space), text ≠ [] := by
  intro text member
  obtain ⟨entry, among, rfl⟩ := List.mem_map.mp member
  obtain ⟨first, rest, rfl, seen⟩ := visible.entries entry among
  exact join_cons_ne_nil seen _ _

theorem IsVisible.joined_eq_nil_iff (layout : Layout) :
    Text.join layout.nested.itemSeparator (group.entries.map (Text.join layout.space)) = [] ↔
      group.entries = [] := by
  rw [join_eq_nil_iff (visible.entries_ne_nil layout), List.map_eq_nil_iff]

/-- A group is written as nothing if there is nothing in it, whatever the layout. -/
theorem IsVisible.render_eq_nil_iff (layout : Layout) :
    group.render layout = [] ↔ group.before = [] ∧ group.entries = [] ∧ group.after = [] := by
  have left : ∀ text ∈ [Text.join layout.space group.before,
      Text.join layout.nested.itemSeparator (group.entries.map (Text.join layout.space)),
      Text.join layout.space group.after].filter (· ≠ []), text ≠ [] := by
    intro text member
    simpa using (List.mem_filter.mp member).2
  rw [ParameterGroup.render, join_eq_nil_iff left, List.filter_eq_nil_iff]
  simp only [List.forall_mem_cons, ne_eq, decide_not, Bool.not_eq_eq_eq_not, Bool.not_true,
    decide_eq_false_iff_not, Decidable.not_not, List.not_mem_nil, false_implies, implies_true,
    and_true, join_eq_nil_iff visible.before, join_eq_nil_iff visible.after,
    visible.joined_eq_nil_iff layout]

end ParameterGroup

namespace Correspondence

variable (κ : Correspondence)

/-- A group whose texts correspond to themselves. -/
structure FixesGroup (group : ParameterGroup) : Prop where
  visible : group.IsVisible
  before : ∀ text ∈ group.before, κ.Fixes text
  entries : ∀ entry ∈ group.entries, ∀ word ∈ entry, κ.Fixes word
  after : ∀ text ∈ group.after, κ.Fixes text

variable {κ} {f g : Layout}

theorem group (layouts : κ.layouts f g) {group : ParameterGroup} (fixed : κ.FixesGroup group) :
    κ.texts (group.render f) (group.render g) := by
  have entries : List.Forall₂ κ.texts (group.entries.map (Text.join f.space))
      (group.entries.map (Text.join g.space)) := by
    rw [List.forall₂_map_left_iff, List.forall₂_map_right_iff]
    exact List.forall₂_same.mpr fun entry member =>
      join_self (κ.space layouts) (fixed.entries entry member)
  have joined := κ.join (κ.itemSeparator (κ.nested layouts)) entries
  refine κ.join (κ.space layouts) (forall₂_filter ?_)
  refine .cons ⟨join_self (κ.space layouts) fixed.before, ?_⟩
    (.cons ⟨joined, ?_⟩ (.cons ⟨join_self (κ.space layouts) fixed.after, ?_⟩ .nil))
  · rw [join_eq_nil_iff fixed.visible.before, join_eq_nil_iff fixed.visible.before]
  · rw [fixed.visible.joined_eq_nil_iff f, fixed.visible.joined_eq_nil_iff g]
  · rw [join_eq_nil_iff fixed.visible.after, join_eq_nil_iff fixed.visible.after]

/-! ## Parts -/

variable (κ)

/-- Named texts correspond when they have the same names. -/
def Named (first second : Text × Text) : Prop :=
  first.1 = second.1 ∧ κ.Fixes first.1 ∧ κ.texts first.2 second.2

/-- Parts correspond when they are the same but for the texts of statements. -/
inductive Parts : Part → Part → Prop where
  | words {words : List Text} (fixed : ∀ word ∈ words, κ.Fixes word) :
      Parts (.words words) (.words words)
  | list {keyword : Text} {items : List Text} (word : κ.Fixes keyword)
      (fixed : ∀ item ∈ items, κ.Fixes item) : Parts (.list keyword items) (.list keyword items)
  | lines {items : List Text} (fixed : ∀ item ∈ items, κ.Fixes item) :
      Parts (.lines items) (.lines items)
  | conditions {keyword : Text} {conditions : List Condition} (word : κ.Fixes keyword)
      (fixed : ∀ condition ∈ conditions, κ.Fixes condition.2) :
      Parts (.conditions keyword conditions) (.conditions keyword conditions)
  | enclosed {keyword : Text} {items : List Text} (word : κ.Fixes keyword)
      (fixed : ∀ item ∈ items, κ.Fixes item) :
      Parts (.enclosed keyword items) (.enclosed keyword items)
  | actions {actions : List (Text × Text)}
      (fixed : ∀ action ∈ actions, κ.Fixes action.1 ∧ κ.Fixes action.2) :
      Parts (.actions actions) (.actions actions)
  | queries {first second : List (Text × Text)} (related : List.Forall₂ κ.Named first second) :
      Parts (.queries first) (.queries second)
  | embedded {first second : Text} (related : κ.texts first second) :
      Parts (.embedded first) (.embedded second)
  | parameters {groups : List ParameterGroup} (fixed : ∀ group ∈ groups, κ.FixesGroup group) :
      Parts (.parameters groups) (.parameters groups)
  | command {first second : Text} (related : κ.texts first second) :
      Parts (.command first) (.command second)

variable {κ}

theorem Parts.single {keyword value : Text} (word : κ.Fixes keyword)
    (fixed : ∀ text ∈ value.unlessEmpty, κ.Fixes text) :
    κ.Parts (.single keyword value) (.single keyword value) := by
  rw [Part.single]
  by_cases empty : value = []
  · rw [if_pos empty]
    exact .words nofun
  · rw [if_neg empty]
    refine .words ?_
    intro text member
    rcases List.mem_cons.mp member with rfl | last
    · exact word
    · rw [List.mem_singleton.mp last]
      exact fixed value (mem_unlessEmpty empty)

theorem Parts.flag {keyword : Text} (word : κ.Fixes keyword) (isSet : Bool) :
    κ.Parts (.flag keyword isSet) (.flag keyword isSet) := by
  cases isSet with
  | false => exact .words nofun
  | true => exact .words (by simpa using word)

theorem Parts.target {τ : Type} [DecidableEq τ] {word : τ → Text} {target : Option (τ × Text)}
    {way : τ} (keyword : κ.Fixes (word way))
    (fixed : ∀ text ∈ targetTexts target way, κ.Fixes text) :
    κ.Parts (targetPart word target way) (targetPart word target way) := by
  cases target with
  | none => exact .words nofun
  | some named =>
      obtain ⟨used, text⟩ := named
      refine Parts.single keyword ?_
      by_cases same : used = way
      · intro other member
        simp only [if_pos same, unlessEmpty] at member
        split at member
        · cases member
        · rw [List.mem_singleton.mp member]
          exact fixed text (by simp [targetTexts, same])
      · intro other member
        rw [if_neg same] at member
        cases member

section Rendering

variable (layouts : κ.layouts f g)
include layouts

theorem renderQuery {first second : Text × Text} (named : κ.Named first second) :
    κ.texts (Part.renderQuery f f.nested first.1 first.2)
      (Part.renderQuery g g.nested second.1 second.2) := by
  obtain ⟨same, name, text⟩ := named
  rw [Part.renderQuery, Part.renderQuery, ← same]
  have inside := κ.append (κ.append (κ.lineBreak (κ.nested layouts)) text) (κ.lineBreak layouts)
  have word : κ.Fixes "AS".toList := κ.keyword (by decide)
  have head := κ.append (κ.append (κ.append name (κ.space layouts)) word) (κ.space layouts)
  simpa only [List.append_assoc, List.cons_append] using κ.append head (κ.parentheses inside)

theorem renderQueries {first second : List (Text × Text)}
    (related : List.Forall₂ κ.Named first second) :
    κ.texts (Part.renderQueries f f.nested first) (Part.renderQueries g g.nested second) := by
  have left : List.Forall₂ κ.Named
      ((first.map fun entry => (entry.1, entry.2.trim)).filter (·.2 ≠ []))
      ((second.map fun entry => (entry.1, entry.2.trim)).filter (·.2 ≠ [])) := by
    induction related with
    | nil => exact .nil
    | @cons a b first second head tail ih =>
        obtain ⟨same, name, text⟩ := head
        have together := κ.trim_eq_nil text
        rw [List.map_cons, List.map_cons]
        by_cases empty : a.2.trim = []
        · have other := together.mp empty
          rw [List.filter_cons_of_neg (by simp [empty]), List.filter_cons_of_neg (by simp [other])]
          exact ih
        · have other : b.2.trim ≠ [] := fun isEmpty => empty (together.mpr isEmpty)
          rw [List.filter_cons_of_pos (by simp [empty]), List.filter_cons_of_pos (by simp [other])]
          exact .cons ⟨same, name, κ.trim text⟩ ih
  rw [Part.renderQueries, Part.renderQueries]
  revert left
  generalize ((first.map fun entry => (entry.1, entry.2.trim)).filter (·.2 ≠ [])) = shown
  generalize ((second.map fun entry => (entry.1, entry.2.trim)).filter (·.2 ≠ [])) = shown'
  intro left
  have written : List.Forall₂ κ.texts
      (shown.map fun entry => Part.renderQuery f f.nested entry.1 entry.2)
      (shown'.map fun entry => Part.renderQuery g g.nested entry.1 entry.2) := by
    rw [List.forall₂_map_left_iff, List.forall₂_map_right_iff]
    exact left.imp fun _ _ named => renderQuery layouts named
  cases left with
  | nil => exact nil
  | cons head tail =>
      exact κ.append (κ.append (κ.append (κ.keyword (by decide)) (terminator layouts))
        (κ.join (κ.itemSeparator layouts) written)) (terminator layouts)

/-- Corresponding parts are written as corresponding texts. -/
theorem part {first second : Part} (parts : κ.Parts first second) :
    κ.texts (first.render f) (second.render g) := by
  cases parts with
  | @words words fixed =>
      cases words with
      | nil => exact nil
      | cons => exact κ.append (join_self (κ.space layouts) fixed) (terminator layouts)
  | @list keyword items word fixed =>
      have left : ∀ item ∈ items.filter (· ≠ []), κ.Fixes item :=
        fun item member => fixed item (List.mem_of_mem_filter member)
      simp only [Part.render]
      split
      · exact nil
      · exact κ.append (κ.append (κ.append word (κ.space layouts))
          (join_self (κ.itemSeparator layouts) left)) (terminator layouts)
  | @lines items fixed =>
      cases items with
      | nil => exact nil
      | cons => exact κ.append (join_self (terminator layouts) fixed) (terminator layouts)
  | @conditions keyword conditions word fixed =>
      cases conditions with
      | nil => exact nil
      | cons => exact κ.append (κ.append (κ.append word (terminator layouts))
          (conditionLines layouts fixed)) (terminator layouts)
  | @enclosed keyword items word fixed =>
      cases items with
      | nil => exact nil
      | cons first rest =>
          have list := κ.enclosed (join_self (κ.itemSeparator layouts) fixed) (terminator layouts)
          simp only [Part.render, List.append_assoc]
          refine κ.append ?_ (by simpa only [List.append_assoc] using list)
          split
          · exact nil
          · exact κ.append word (κ.space layouts)
  | @actions actions fixed =>
      cases actions with
      | nil => exact nil
      | cons first rest =>
          refine κ.append (κ.join (κ.itemSeparator layouts) ?_) (terminator layouts)
          rw [List.forall₂_map_left_iff, List.forall₂_map_right_iff]
          refine List.forall₂_same.mpr fun action member => ?_
          obtain ⟨word, text⟩ := fixed action member
          exact κ.append (κ.append (κ.append (κ.indent layouts) word) (κ.space layouts)) text
  | queries related => exact renderQueries layouts related
  | embedded related =>
      refine terminated layouts (κ.trim related) (κ.trim_eq_nil related)
  | @parameters groups fixed =>
      have written : List.Forall₂ κ.texts
          ((groups.map (ParameterGroup.render f)).filter (· ≠ []))
          ((groups.map (ParameterGroup.render g)).filter (· ≠ [])) := by
        refine forall₂_filter ?_
        rw [List.forall₂_map_left_iff, List.forall₂_map_right_iff]
        refine List.forall₂_same.mpr fun group member => ?_
        have visible := (fixed group member).visible
        refine ⟨κ.group layouts (fixed group member), ?_⟩
        rw [visible.render_eq_nil_iff f, visible.render_eq_nil_iff g]
      simp only [Part.render]
      revert written
      generalize (groups.map (ParameterGroup.render f)).filter (· ≠ []) = shown
      generalize (groups.map (ParameterGroup.render g)).filter (· ≠ []) = shown'
      intro written
      have inside := κ.append (κ.append (κ.append (κ.lineBreak layouts) (κ.indent layouts))
        (κ.join (κ.itemSeparator (κ.nested layouts)) written)) (κ.lineBreak layouts)
      cases written with
      | nil => exact nil
      | cons => simpa only [List.append_assoc, List.cons_append] using
          κ.enclosed inside (terminator layouts)
  | @command first second related =>
      have together := κ.trim_eq_nil related
      simp only [Part.render]
      by_cases empty : first.trim = []
      · rw [if_pos empty, if_pos (together.mp empty)]
        exact nil
      · rw [if_neg empty, if_neg fun other => empty (together.mpr other)]
        have semicolon : κ.Fixes [';'] := κ.keyword (by decide)
        have ended := κ.append (κ.trim related) semicolon
        simpa only [List.append_assoc, List.cons_append, List.nil_append] using
          κ.append ended (terminator layouts)

end Rendering
end Correspondence
end SqlText
