import SqlText.Proofs.Occurrence.Basic
import SqlText.Proofs.Stored
import SqlText.Render.Outline

/-!
# What a clause carries

A part of a statement carries the texts that it is made of, in their order, and a segment carries
them between the raw text around its clause. In a list of parameters each group carries its raw
text and what stands in its entries.
-/

set_option autoImplicit false

namespace SqlText

open Text

/-! ## Parts -/

namespace Part

variable (layout : Layout)

theorem carries_words (words : List Text) : Carries ((Part.words words).render layout) words := by
  cases words with
  | nil => exact .nil _
  | cons first rest =>
      rw [render]
      · exact (Carries.join_self layout.space (first :: rest)).append_right _
      · exact nofun

theorem carries_list (keyword : Text) (items : List Text) :
    Carries ((Part.list keyword items).render layout) items := by
  refine Carries.of_filter ?_
  rw [render]
  split
  · rename_i isEmpty
    rw [isEmpty]
    exact .nil _
  · exact ((Carries.join_self layout.itemSeparator _).append_left _).append_right _

theorem carries_lines (items : List Text) : Carries ((Part.lines items).render layout) items := by
  cases items with
  | nil => exact .nil _
  | cons first rest =>
      rw [render]
      · exact (Carries.join_self layout.terminator (first :: rest)).append_right _
      · exact nofun

theorem carries_conditions (keyword : Text) (conditions : List Condition) :
    Carries ((Part.conditions keyword conditions).render layout) (conditions.map Prod.snd) := by
  cases conditions with
  | nil => exact .nil _
  | cons first rest =>
      rw [render]
      · exact ((layout.carries_conditionLines (first :: rest)).append_left _).append_right _
      · exact nofun

theorem carries_enclosed (keyword : Text) (items : List Text) :
    Carries ((Part.enclosed keyword items).render layout) items := by
  cases items with
  | nil => exact .nil _
  | cons first rest =>
      rw [render]
      · have listed := Carries.join_self layout.itemSeparator (first :: rest)
        rw [List.append_assoc]
        exact (listed.enclosed layout.terminator).append_left _
      · exact nofun

theorem carries_actions (actions : List (Text × Text)) :
    Carries ((Part.actions actions).render layout) (actions.map Prod.snd) := by
  cases actions with
  | nil => exact .nil _
  | cons first rest =>
      rw [render]
      · rw [List.map_eq_flatMap (f := Prod.snd)]
        refine Carries.append_right _ (Carries.join _ ?_)
        intro action _
        exact (Carries.self action.2).append_left _
      · exact nofun

theorem carries_query (nested : Layout) (name text : Text) :
    Carries (renderQuery layout nested name text) [name, text] := by
  rw [renderQuery]
  have named := (Carries.self name).append_right (layout.space ++ "AS".toList ++ layout.space)
  have inside := ((Carries.self text).append_left nested.lineBreak).append_right layout.lineBreak
  have whole := named.append (inside.enclosed [])
  simpa only [List.append_assoc, List.cons_append, List.singleton_append, List.nil_append]
    using whole

/-- The names and the texts of the queries of which something is left. -/
def queryItems (entries : List (Text × Text)) : List Text :=
  entries.flatMap fun (name, text) => if text.trim = [] then [] else [name, text.trim]

theorem queryItems_eq (entries : List (Text × Text)) :
    queryItems entries =
      ((entries.map fun (name, text) => (name, text.trim)).filter (·.2 ≠ [])).flatMap
        fun entry => [entry.1, entry.2] := by
  induction entries with
  | nil => rfl
  | cons first rest ih =>
      obtain ⟨name, text⟩ := first
      rw [queryItems, List.flatMap_cons, ← queryItems, ih, List.map_cons]
      dsimp only
      by_cases empty : text.trim = []
      · rw [if_pos empty, List.filter_cons_of_neg (by simp [empty]), List.nil_append]
      · rw [if_neg empty, List.filter_cons_of_pos (by simp [empty]), List.flatMap_cons]

theorem carries_queries (entries : List (Text × Text)) :
    Carries ((Part.queries entries).render layout) (queryItems entries) := by
  rw [render, renderQueries, queryItems_eq]
  split
  · rename_i isEmpty
    rw [isEmpty]
    exact .nil _
  · refine Carries.append_right _ (Carries.append_left _ (Carries.join _ ?_))
    intro entry _
    exact carries_query layout layout.nested entry.1 entry.2

theorem carries_embedded (text : Text) :
    Carries ((Part.embedded text).render layout) [text.trim] := by
  rw [render]
  exact layout.carries_terminated (.self _)

theorem carries_single (keyword value : Text) :
    Carries ((Part.single keyword value).render layout) value.unlessEmpty := by
  rw [single, unlessEmpty]
  split
  · exact .nil _
  · exact (carries_words layout [keyword, value]).sublist (List.sublist_cons_self _ _)

theorem carries_target {τ : Type} [DecidableEq τ] (word : τ → Text) {target : Option (τ × Text)}
    (visible : ∀ named ∈ target, named.2 ≠ []) (way : τ) :
    Carries ((targetPart word target way).render layout) (targetTexts target way) := by
  cases target with
  | none => exact .nil _
  | some named =>
      obtain ⟨used, text⟩ := named
      rw [targetTexts, targetPart]
      by_cases same : used = way
      · rw [if_pos same, if_pos same]
        have written := carries_single layout (word way) text
        rwa [unlessEmpty, if_neg (visible _ rfl)] at written
      · rw [if_neg same, if_neg same]
        exact .nil _

end Part

/-! ## Lists of parameters -/

/-- A group of parameters carries its raw text and what stands in its entries. -/
theorem ParameterGroup.carries_render (layout : Layout) (before items after : List Text)
    {entry : Text → List Text}
    (each : ∀ item, Carries (join layout.space (entry item)) [item]) :
    Carries (ParameterGroup.render layout ⟨before, items.map entry, after⟩)
      (before ++ items ++ after) := by
  have entries : Carries (join layout.nested.itemSeparator
      ((items.map entry).map (join layout.space))) items := by
    have listed := Carries.join layout.nested.itemSeparator fun item (_ : item ∈ items) => each item
    rwa [List.flatMap_singleton', ← Function.comp_def, ← List.map_map] at listed
  have parts : List.Forall₂ Carries [join layout.space before,
      join layout.nested.itemSeparator ((items.map entry).map (join layout.space)),
      join layout.space after] [before, items, after] :=
    .cons (.join_self _ _) (.cons entries (.cons (.join_self _ _) .nil))
  have whole := Carries.join_filter layout.space parts
  rw [List.flatten_cons, List.flatten_cons, List.flatten_singleton, ← List.append_assoc] at whole
  exact whole

theorem Part.carries_parameters (layout : Layout) {groups : List ParameterGroup}
    {contents : List (List Text)}
    (each : List.Forall₂ (fun group content => Carries (group.render layout) content) groups
      contents) :
    Carries ((Part.parameters groups).render layout) contents.flatten := by
  have listed := Carries.join_filter layout.nested.itemSeparator
    (List.forall₂_map_left_iff.mpr each)
  rw [render]
  split
  · rename_i isEmpty
    rwa [isEmpty] at listed
  · have inner := listed.append_left (layout.lineBreak ++ layout.indent)
    exact (inner.append_right layout.lineBreak).enclosed layout.terminator

/-! ## Segments -/

/-- What a clause carries together with the raw text around it, if the clause takes part. -/
def Frame.sequence (kind : Kind) (frame : Frame) (items : Clause → List Text) (clause : Clause) :
    List Text :=
  if frame.enables kind clause then
    frame.before.get clause ++ items clause ++ frame.after.get clause
  else []

theorem Frame.sequence_of_enabled {kind : Kind} {frame : Frame} {clause : Clause}
    (enabled : frame.enables kind clause = true) (items : Clause → List Text) :
    frame.sequence kind items clause =
      frame.before.get clause ++ items clause ++ frame.after.get clause :=
  if_pos enabled

section Segments

variable (layout : Layout) {kind : Kind} {frame : Frame} {items : Clause → List Text}

theorem Segment.carries_clause {clause : Clause} {part : Part}
    (carries : Carries (part.render layout) (items clause)) :
    Carries ((Segment.clause clause part).render layout kind frame)
      (frame.sequence kind items clause) := by
  rw [render, Frame.sequence]
  split
  · exact layout.carries_wrapped _ _ carries
  · exact .nil _

/-- A clause and the segment that it is written as: the segment carries what the clause does. -/
def Segment.CarriesClause (kind : Kind) (frame : Frame) (items : Clause → List Text)
    (clause : Clause) (segment : Segment) : Prop :=
  Carries (segment.render layout kind frame) (frame.sequence kind items clause)

/-- Segments that carry what some clauses do are written as a text that does. -/
theorem Segment.carries_flatMap {clauses : List Clause} {segments : List Segment}
    (each : List.Forall₂ (Segment.CarriesClause layout kind frame items) clauses segments) :
    Carries (segments.flatMap (Segment.render layout kind frame))
      (clauses.flatMap (frame.sequence kind items)) := by
  induction each with
  | nil => exact .nil _
  | cons head _ ih =>
      rw [List.flatMap_cons, List.flatMap_cons]
      exact head.append ih

end Segments

end SqlText
