import SqlText.Proofs.Correspondence.Part
import SqlText.Proofs.Omission

/-!
# What is written as blank characters only

A part has nothing to show in a layout if there is nothing in it, and in no other case: not its
keyword, nor a separator, nor a parenthesis is written without something to go with it. The parts
with statements in them are blank when the texts of all these statements are.

The same is said of a clause with the raw text around it (`Segment.allBlank_clause_iff`) and of set
operations (`Combination.allBlank_render_iff`). The latter depend on the layout in one respect: the
text so far and the raw text before a kind are trimmed with a space between them, which has to be
blank.
-/

set_option autoImplicit false

namespace SqlText

open Text

/-! ## Blank texts -/

namespace Text

variable {text : Text}

theorem Opens.not_allBlank (opens : Opens text) : ¬AllBlank text := by
  obtain ⟨c, rest, rfl, visible⟩ := opens
  intro blank
  have first := blank c List.mem_cons_self
  rw [visible] at first
  cases first

theorem unlessEmpty_eq_nil_iff : text.unlessEmpty = [] ↔ text = [] := by
  rw [unlessEmpty]
  split
  · exact iff_of_true rfl (by assumption)
  · exact iff_of_false (List.cons_ne_nil _ _) (by assumption)

theorem allBlank_trim_iff : AllBlank text.trim ↔ AllBlank text := by
  rw [← trim_eq_nil_iff, trim_trim, trim_eq_nil_iff]

theorem allBlank_trimEnd_iff : AllBlank text.trimEnd ↔ AllBlank text := by
  obtain ⟨back, blank, whole⟩ := exists_eq_trimEnd text
  conv_rhs => rw [whole, allBlank_append_iff]
  exact (and_iff_left blank).symm

theorem allBlank_flatMap_iff {α : Type} {items : List α} {write : α → Text} :
    AllBlank (items.flatMap write) ↔ ∀ item ∈ items, AllBlank (write item) := by
  constructor
  · intro blank item member c inside
    exact blank c (List.mem_flatMap.mpr ⟨item, member, inside⟩)
  · intro blank c member
    obtain ⟨item, among, inside⟩ := List.mem_flatMap.mp member
    exact blank item among c inside

end Text

theorem Layout.IsSettled.allBlank_iff {layout : Layout} {text : Text}
    (settled : layout.IsSettled text) : AllBlank text ↔ text = [] := by
  rcases settled with rfl | ⟨core, fragment, rfl⟩
  · exact iff_of_true allBlank_nil rfl
  · have opens := fragment.opens.append layout.terminator
    refine iff_of_false opens.not_allBlank fun isEmpty => ?_
    exact opens.not_allBlank (isEmpty ▸ allBlank_nil)

theorem Layout.allBlank_rawText_iff (layout : Layout) {fragments : List Text}
    (visible : ∀ text ∈ fragments, IsFragment text) :
    AllBlank (layout.rawText fragments) ↔ fragments = [] := by
  cases fragments with
  | nil => exact iff_of_true allBlank_nil rfl
  | cons first rest =>
      have joined : IsFragment (join layout.terminator (first :: rest)) :=
        isFragment_join (List.cons_ne_nil _ _) visible
      refine iff_of_false ?_ (List.cons_ne_nil _ _)
      rw [rawText, filter_ne_nil fun text member => (visible text member).ne_nil, terminated,
        if_neg joined.ne_nil]
      exact (joined.opens.append _).not_allBlank

/-! ## Parts -/

namespace Part

variable (layout : Layout) {keyword : Text} {items : List Text}

theorem allBlank_words_iff (visible : ∀ word ∈ items, IsFragment word) :
    AllBlank ((Part.words items).render layout) ↔ items = [] := by
  cases items with
  | nil => exact iff_of_true allBlank_nil rfl
  | cons first rest =>
      have joined : IsFragment (join layout.space (first :: rest)) :=
        isFragment_join (List.cons_ne_nil _ _) visible
      exact iff_of_false (joined.opens.append _).not_allBlank (List.cons_ne_nil _ _)

theorem allBlank_single_iff {value : Text} (word : IsFragment keyword) (trimmed : IsValue value) :
    AllBlank ((Part.single keyword value).render layout) ↔ value.unlessEmpty = [] := by
  rw [single, unlessEmpty]
  split
  · exact iff_of_true allBlank_nil rfl
  · rename_i nonempty
    have words := List.forall_mem_cons.mpr ⟨word, List.forall_mem_singleton.mpr
      (trimmed.isFragment nonempty)⟩
    exact iff_of_false (fun blank => by cases (allBlank_words_iff layout words).mp blank)
      (List.cons_ne_nil _ _)

theorem allBlank_flag_iff (word : IsFragment keyword) (isSet : Bool) :
    AllBlank ((Part.flag keyword isSet).render layout) ↔ isSet = false := by
  cases isSet with
  | false => exact iff_of_true allBlank_nil rfl
  | true =>
      refine iff_of_false (fun blank => ?_) nofun
      cases (allBlank_words_iff layout (List.forall_mem_singleton.mpr word)).mp blank

theorem allBlank_target_iff {τ : Type} [DecidableEq τ] {word : τ → Text}
    {target : Option (τ × Text)} {way : τ} (keyword : IsFragment (word way))
    (fragment : ∀ named ∈ target, named.2.IsFragment) :
    AllBlank ((targetPart word target way).render layout) ↔ targetTexts target way = [] := by
  cases target with
  | none => exact iff_of_true allBlank_nil rfl
  | some named =>
      obtain ⟨used, name⟩ := named
      have visible : IsFragment name := fragment _ rfl
      rw [targetPart, targetTexts]
      by_cases same : used = way
      · rw [if_pos same, if_pos same, allBlank_single_iff layout keyword (.inr visible),
          unlessEmpty, if_neg visible.ne_nil]
      · rw [if_neg same, if_neg same]
        exact iff_of_true allBlank_nil rfl

theorem allBlank_list_iff (word : IsFragment keyword)
    (fragments : ∀ item ∈ items, IsFragment item) :
    AllBlank ((Part.list keyword items).render layout) ↔ items = [] := by
  cases items with
  | nil => exact iff_of_true allBlank_nil rfl
  | cons first rest =>
      refine iff_of_false ?_ (List.cons_ne_nil _ _)
      rw [render, filter_ne_nil fun item member => (fragments item member).ne_nil]
      exact (((word.opens.append _).append _).append _).not_allBlank

theorem allBlank_lines_iff (fragments : ∀ item ∈ items, IsFragment item) :
    AllBlank ((Part.lines items).render layout) ↔ items = [] := by
  cases items with
  | nil => exact iff_of_true allBlank_nil rfl
  | cons first rest =>
      have joined : IsFragment (join layout.terminator (first :: rest)) :=
        isFragment_join (List.cons_ne_nil _ _) fragments
      exact iff_of_false (joined.opens.append _).not_allBlank (List.cons_ne_nil _ _)

theorem allBlank_conditions_iff (word : IsFragment keyword) {conditions : List Condition} :
    AllBlank ((Part.conditions keyword conditions).render layout) ↔
      conditions.map Prod.snd = [] := by
  cases conditions with
  | nil => exact iff_of_true allBlank_nil rfl
  | cons first rest =>
      exact iff_of_false (((word.opens.append _).append _).append _).not_allBlank
        (List.cons_ne_nil _ _)

theorem allBlank_enclosed_iff : AllBlank ((Part.enclosed keyword items).render layout) ↔
    items = [] := by
  cases items with
  | nil => exact iff_of_true allBlank_nil rfl
  | cons first rest =>
      refine iff_of_false (fun blank => ?_) (List.cons_ne_nil _ _)
      have opened := (allBlank_append_iff.mp (allBlank_append_iff.mp blank).1).2
      exact Opens.not_allBlank ⟨'(', _, rfl, by decide⟩ opened

theorem allBlank_actions_iff {actions : List (Text × Text)}
    (words : ∀ action ∈ actions, IsFragment action.1) :
    AllBlank ((Part.actions actions).render layout) ↔ actions = [] := by
  cases actions with
  | nil => exact iff_of_true allBlank_nil rfl
  | cons first rest =>
      refine iff_of_false (fun blank => ?_) (List.cons_ne_nil _ _)
      rw [render, List.map_cons, join_cons] at blank
      · simp only [allBlank_append_iff] at blank
        obtain ⟨⟨⟨⟨⟨-, word⟩, -⟩, -⟩, -⟩, -⟩ := blank
        exact (words first List.mem_cons_self).opens.not_allBlank word
      · intro isEmpty
        cases isEmpty

theorem allBlank_queries_iff {entries : List (Text × Text)} :
    AllBlank ((Part.queries entries).render layout) ↔ ∀ entry ∈ entries, AllBlank entry.2 := by
  rw [render, (isSettled_renderQueries layout _ entries).allBlank_iff, renderQueries]
  split
  · rename_i isEmpty
    refine iff_of_true rfl fun entry member => ?_
    have trimmed := List.filter_eq_nil_iff.mp isEmpty _ (List.mem_map_of_mem member)
    exact trim_eq_nil_iff.mp (by simpa using trimmed)
  · rename_i nonempty
    refine iff_of_false (List.append_ne_nil_of_left_ne_nil (by simp) _) fun blank => nonempty ?_
    refine List.filter_eq_nil_iff.mpr fun shown member => ?_
    obtain ⟨entry, among, rfl⟩ := List.mem_map.mp member
    simpa using trim_eq_nil_iff.mpr (blank entry among)

theorem allBlank_embedded_iff (text : Text) :
    AllBlank ((Part.embedded text).render layout) ↔ AllBlank text := by
  rw [render, (layout.isSettled_terminated_trim text).allBlank_iff, Layout.terminated,
    ← trim_eq_nil_iff]
  split
  · rename_i isEmpty
    exact iff_of_true rfl isEmpty
  · rename_i nonempty
    exact iff_of_false (List.append_ne_nil_of_left_ne_nil nonempty _) nonempty

theorem allBlank_command_iff (text : Text) :
    AllBlank ((Part.command text).render layout) ↔ AllBlank text := by
  rw [render]
  split
  · rename_i isEmpty
    exact iff_of_true allBlank_nil (trim_eq_nil_iff.mp isEmpty)
  · rename_i nonempty
    refine iff_of_false ?_ fun blank => nonempty (trim_eq_nil_iff.mpr blank)
    exact ((isFragment_trim nonempty).opens.append _).not_allBlank

theorem allBlank_parameters_iff {groups : List ParameterGroup}
    (visible : ∀ group ∈ groups, group.IsVisible) :
    AllBlank ((Part.parameters groups).render layout) ↔
      ∀ group ∈ groups, group.before = [] ∧ group.entries = [] ∧ group.after = [] := by
  have same : ((groups.map (ParameterGroup.render layout)).filter (· ≠ []) = []) ↔
      ∀ group ∈ groups, group.before = [] ∧ group.entries = [] ∧ group.after = [] := by
    rw [List.filter_eq_nil_iff, List.forall_mem_map]
    refine forall₂_congr fun group member => ?_
    rw [← (visible group member).render_eq_nil_iff layout]
    simp
  rw [← same, render]
  split
  · rename_i isEmpty
    exact iff_of_true allBlank_nil isEmpty
  · rename_i nonempty
    exact iff_of_false (Opens.not_allBlank ⟨'(', _, rfl, by decide⟩) nonempty

end Part

/-! ## Clauses -/

/-- A clause is blank if it does not take part, or if there is neither raw text around it nor
anything in it. -/
theorem Segment.allBlank_clause_iff {kind : Kind} {frame : Frame} {clauses : List Clause}
    (framed : frame.IsValid clauses) (layout : Layout) {clause : Clause} {part : Part}
    {vacant : Prop} (told : AllBlank (part.render layout) ↔ vacant) :
    AllBlank ((Segment.clause clause part).render layout kind frame) ↔
      (frame.enables kind clause = true →
        frame.before.get clause = [] ∧ vacant ∧ frame.after.get clause = []) := by
  have before : AllBlank (layout.rawText (frame.before.get clause)) ↔ _ :=
    layout.allBlank_rawText_iff fun _ => framed.before.isFragment_of_mem_get
  have after : AllBlank (layout.rawText (frame.after.get clause)) ↔ _ :=
    layout.allBlank_rawText_iff fun _ => framed.after.isFragment_of_mem_get
  rw [render]
  split
  · rename_i enabled
    rw [Layout.wrapped, allBlank_append_iff, allBlank_append_iff, before, told, after, and_assoc]
    exact ⟨fun all _ => all, fun all => all enabled⟩
  · rename_i disabled
    exact iff_of_true allBlank_nil fun enabled => absurd enabled disabled

/-! ## Set operations -/

/-- Two trimmed sides are combined to a blank text if both are blank. -/
theorem Layout.allBlank_combined_iff (layout : Layout) (keyword left right : Text) :
    AllBlank (layout.combined keyword left.trim right.trim) ↔ AllBlank left ∧ AllBlank right := by
  rw [(layout.isSettled_combined keyword left right).allBlank_iff, ← trim_eq_nil_iff,
    ← trim_eq_nil_iff, combined]
  by_cases leftBlank : left.trim = []
  · rw [if_pos leftBlank, terminated]
    by_cases rightBlank : right.trim = []
    · exact iff_of_true (if_pos rightBlank) ⟨leftBlank, rightBlank⟩
    · rw [if_neg rightBlank]
      exact iff_of_false (List.append_ne_nil_of_left_ne_nil rightBlank _)
        fun both => rightBlank both.2
  · rw [if_neg leftBlank]
    by_cases rightBlank : right.trim = []
    · rw [if_pos rightBlank, terminated, if_neg leftBlank]
      exact iff_of_false (List.append_ne_nil_of_left_ne_nil leftBlank _)
        fun both => leftBlank both.1
    · rw [if_neg rightBlank]
      exact iff_of_false (List.append_ne_nil_of_left_ne_nil (by simp) _)
        fun both => leftBlank both.1

namespace Combination

variable {κ : Type} [DecidableEq κ] {combination : Combination κ} {layout : Layout}
variable (kept : combination.IsKept)
include kept

theorem allBlank_unused_iff (used : List κ) (key : κ) :
    AllBlank (combination.unused layout used key) ↔
      (key ∉ used → combination.before key = [] ∧ combination.after key = []) := by
  rw [unused]
  split
  · rename_i among
    exact iff_of_true allBlank_nil fun other => absurd among other
  · rename_i apart
    rw [Layout.wrapped, List.append_nil, allBlank_append_iff,
      layout.allBlank_rawText_iff (kept.before key), layout.allBlank_rawText_iff (kept.after key)]
    exact ⟨fun all _ => all, fun all => all apart⟩

variable (space : AllBlank layout.space)
include space

theorem allBlank_leftSide_iff (seen : List κ) (text : Text) (key : κ) :
    AllBlank (combination.leftSide layout seen text key) ↔
      AllBlank text ∧ (key ∉ seen → combination.before key = []) := by
  rw [leftSide]
  split
  · rename_i among
    rw [allBlank_trim_iff]
    exact ⟨fun blank => ⟨blank, fun apart => absurd among apart⟩, And.left⟩
  · rename_i apart
    have raw : AllBlank (join layout.space (combination.before key)) ↔
        combination.before key = [] := by
      by_cases isEmpty : combination.before key = []
      · rw [isEmpty]
        exact iff_of_true allBlank_nil rfl
      · have joined : IsFragment (join layout.space (combination.before key)) :=
          isFragment_join isEmpty (kept.before key)
        exact iff_of_false joined.opens.not_allBlank isEmpty
    rw [allBlank_trim_iff, allBlank_append_iff, allBlank_append_iff, allBlank_trim_iff, raw]
    exact ⟨fun all => ⟨all.1.1, fun _ => all.2⟩, fun all => ⟨⟨all.1, space⟩, all.2 apart⟩⟩

theorem allBlank_step_iff (seen later : List κ) (text : Text) (key : κ) (operand : Text) :
    AllBlank (combination.step layout seen later text key operand) ↔
      AllBlank text ∧ (key ∉ seen → combination.before key = []) ∧ AllBlank operand ∧
        (key ∉ later → combination.after key = []) := by
  obtain ⟨whole, left⟩ := combination.exists_leftSide_eq_trim layout seen text key
  have leftBlank := allBlank_leftSide_iff kept space seen text key
  rw [left, allBlank_trim_iff] at leftBlank
  have combined := layout.allBlank_combined_iff (combination.keyword key) whole operand
  rw [step, left]
  split
  · rename_i among
    rw [combined, leftBlank]
    exact ⟨fun all => ⟨all.1.1, all.1.2, all.2, fun apart => absurd among apart⟩,
      fun all => ⟨⟨all.1, all.2.1⟩, all.2.2.1⟩⟩
  · rename_i apart
    rw [allBlank_append_iff, combined, leftBlank, layout.allBlank_rawText_iff (kept.after key)]
    exact ⟨fun all => ⟨all.1.1.1, all.1.1.2, all.1.2, fun _ => all.2⟩,
      fun all => ⟨⟨⟨all.1, all.2.1⟩, all.2.2.1⟩, all.2.2.2 apart⟩⟩

theorem allBlank_apply_iff (seen : List κ) (text : Text) (operations : List (κ × Text)) :
    AllBlank (combination.apply layout seen text operations) ↔
      AllBlank text ∧ (∀ operation ∈ operations, AllBlank operation.2) ∧
        ∀ key ∈ operations.map Prod.fst,
          (key ∉ seen → combination.before key = []) ∧ combination.after key = [] := by
  induction operations generalizing seen text with
  | nil => exact ⟨fun blank => ⟨blank, nofun, nofun⟩, And.left⟩
  | cons first rest ih =>
      obtain ⟨key, operand⟩ := first
      rw [apply, ih, allBlank_step_iff kept space, List.map_cons, List.forall_mem_cons,
        List.forall_mem_cons]
      constructor
      · rintro ⟨⟨blank, opening, inside, closing⟩, others, raw⟩
        refine ⟨blank, ⟨inside, others⟩, ⟨opening, ?_⟩, fun other member => ⟨fun new => ?_, ?_⟩⟩
        · by_cases again : key ∈ rest.map Prod.fst
          · exact (raw key again).2
          · exact closing again
        · by_cases same : other = key
          · rw [same] at new ⊢
            exact opening new
          · exact (raw other member).1 (List.not_mem_cons_of_ne_of_not_mem same new)
        · exact (raw other member).2
      · rintro ⟨blank, ⟨inside, others⟩, ⟨opening, closing⟩, raw⟩
        refine ⟨⟨blank, opening, inside, fun _ => closing⟩, others, fun other member => ?_⟩
        exact ⟨fun new => (raw other member).1 fun old => new (List.mem_cons_of_mem _ old),
          (raw other member).2⟩

/-- A combination is blank if the text before the operations and all operands are, and there is no
raw text around any kind. -/
theorem allBlank_render_iff {keys : List κ} (all : ∀ key, key ∈ keys) (text : Text)
    (operations : List (κ × Text)) :
    AllBlank (combination.render layout keys text operations) ↔
      AllBlank text ∧ (∀ operation ∈ operations, AllBlank operation.2) ∧
        ∀ key, combination.before key = [] ∧ combination.after key = [] := by
  rw [render, allBlank_append_iff, allBlank_apply_iff kept space, allBlank_flatMap_iff]
  constructor
  · rintro ⟨⟨blank, operands, used⟩, unused⟩
    refine ⟨blank, operands, fun key => ?_⟩
    by_cases among : key ∈ operations.map Prod.fst
    · exact ⟨(used key among).1 List.not_mem_nil, (used key among).2⟩
    · exact (allBlank_unused_iff kept _ key).mp (unused key (all key)) among
  · rintro ⟨blank, operands, raw⟩
    refine ⟨⟨blank, operands, fun key _ => ⟨fun _ => (raw key).1, (raw key).2⟩⟩, ?_⟩
    exact fun key _ => (allBlank_unused_iff kept _ key).mpr fun _ => raw key

end Combination

end SqlText
