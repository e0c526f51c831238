import SqlText.Proofs.Taken

/-!
# What a DROP drops

Where the dialect allows one target only, a DROP names the last of its names. Since a name that was
given before is not taken again, this is not always the name that was given last: it is the name
whose first mention comes last. So the name that was given last is dropped exactly if no name was
mentioned for the first time after its own first mention (`Statement.HasTaken.render_drop`).
-/

set_option autoImplicit false

namespace SqlText

open Text

/-! ## The last of the first occurrences -/

/-- The last of the first occurrences is the item whose first occurrence comes last. -/
theorem exists_getLast?_eraseDups {α : Type} [BEq α] [LawfulBEq α] {items : List α}
    (nonempty : items ≠ []) :
    ∃ last ∈ items, items.eraseDups.getLast? = some last ∧
      ∀ item ∈ items, items.idxOf item ≤ items.idxOf last := by
  induction items using List.reverseRecOn with
  | nil => exact absurd rfl nonempty
  | append_singleton earlier final ih =>
      have index (item : α) (member : item ∈ earlier) :
          (earlier ++ [final]).idxOf item = earlier.idxOf item := by
        rw [List.idxOf_append, if_pos member]
      rw [eraseDups_concat]
      by_cases known : final ∈ earlier
      · obtain ⟨last, among, shape, latest⟩ := ih (List.ne_nil_of_mem known)
        refine ⟨last, List.mem_append_left _ among, by rw [if_pos known, shape], ?_⟩
        intro item member
        have old : item ∈ earlier := by
          rcases List.mem_append.mp member with old | new
          · exact old
          · rwa [List.mem_singleton.mp new]
        rw [index item old, index last among]
        exact latest item old
      · refine ⟨final, List.mem_concat_self, ?_, ?_⟩
        · rw [if_neg known, List.getLast?_concat]
        · intro item member
          have place : (earlier ++ [final]).idxOf final = earlier.length := by
            rw [List.idxOf_append, if_neg known, List.idxOf_cons_self, Nat.zero_add]
          have bound := List.idxOf_lt_length_of_mem member
          rw [List.length_append, List.length_singleton] at bound
          rw [place]
          exact Nat.le_of_lt_succ bound

/-- Of two items whose first occurrences come last, one is the other. -/
theorem eq_of_latest {α : Type} [BEq α] [LawfulBEq α] {items : List α} {first second : α}
    (member : first ∈ items) (memberToo : second ∈ items)
    (latest : ∀ item ∈ items, items.idxOf item ≤ items.idxOf first)
    (latestToo : ∀ item ∈ items, items.idxOf item ≤ items.idxOf second) : first = second :=
  (List.idxOf_inj member).mp
    (Nat.le_antisymm (latestToo first member) (latest second memberToo))

/-! ## What a DROP holds -/

/-- A keyword and a single value behind it. -/
theorem Part.render_single (layout : Layout) (keyword : Text) {value : Text}
    (visible : value ≠ []) :
    (Part.single keyword value).render layout =
      keyword ++ layout.space ++ value ++ layout.terminator := by
  rw [single, if_neg visible, render, join_cons, preceded, List.flatMap_singleton,
    ← List.append_assoc]
  exact List.cons_ne_nil keyword [value]

/-- The methods that a DROP is given names by. -/
def Method.dropping : List Method :=
  [.dropTable, .dropTableIfExists, .dropIndex, .dropIndexIfExists]

/-- The clause of a DROP of the kind, and the word that it starts with. -/
def Kind.dropped? : Kind → Option (Clause × Text)
  | .dropTable => some (.dropTable, "DROP TABLE".toList)
  | .dropIndex => some (.dropIndex, "DROP INDEX".toList)
  | _ => none

theorem Kind.bodySlot?_eq_drop_iff {kind : Kind} {clause : Clause} {word : Text}
    (drops : kind.dropped? = some (clause, word)) (method : Method) :
    kind.bodySlot? method = some (.clause .dropTable) ↔ method ∈ Method.dropping := by
  cases kind <;> cases drops <;> cases method <;> decide

theorem Content.foldl_after_names (given : List Text) (ifExists : Bool) (acts : List Act) :
    ∃ names, acts.foldl Content.after (.names given ifExists) =
      .names names (acts.any (·.method.asksExistence) || ifExists) := by
  induction acts generalizing given ifExists with
  | nil => exact ⟨given, rfl⟩
  | cons act rest ih =>
      obtain ⟨names, shape⟩ := ih (pushAll given (fragments act.arguments))
        (act.method.asksExistence || ifExists)
      refine ⟨names, ?_⟩
      rw [List.foldl_cons, Content.after, Content.write, shape, List.any_cons, Bool.or_left_comm,
        Bool.or_assoc]

namespace Statement

/-- The body of a DROP. -/
def dropBody : Statement → DropBody
  | dropTable _ body | dropIndex _ body => body
  | _ => {}

variable {statement : Statement} {acts : List Act} {clause : Clause} {word : Text}

theorem content_dropBody (drops : statement.kind.dropped? = some (clause, word)) :
    statement.content (.clause .dropTable) =
      .names statement.dropBody.names statement.dropBody.ifExists := by
  cases statement <;> first | rfl | cases drops

theorem written_dropBody (drops : statement.kind.dropped? = some (clause, word))
    (layout : Layout) :
    statement.written layout =
      statement.frame.render layout statement.kind
        (statement.dropBody.outline statement.frame clause word) := by
  cases statement <;> cases drops <;> rw [written] <;> rfl

namespace HasTaken

/-- A DROP has the first occurrences of the names that it was given, which need not exist if one of
the calls said so. -/
theorem names_eq (taken : statement.HasTaken acts)
    (drops : statement.kind.dropped? = some (clause, word)) :
    statement.dropBody.names = (textsGiven Method.dropping acts).eraseDups ∧
      statement.dropBody.ifExists =
        acts.any (·.method ∈ [Method.dropTableIfExists, Method.dropIndexIfExists]) := by
  have ofBody : (Slot.clause .dropTable).IsOfBody := trivial
  have sameActs := statement.kind.actsAt_eq_filter ofBody (Kind.bodySlot?_eq_drop_iff drops) acts
  constructor
  · have gathers := taken.gathers (.clause .dropTable)
    rw [content_dropBody drops, sameActs] at gathers
    exact gathers
  · have nothing : (empty statement.kind statement.dialect).content (.clause .dropTable) =
        .names [] false := by
      cases statement <;> first | rfl | cases drops
    have held := taken.content_eq statement.dialect (.clause .dropTable)
    obtain ⟨names, folded⟩ := Content.foldl_after_names [] false
      (acts.filter (·.method ∈ Method.dropping))
    rw [content_dropBody drops, nothing, sameActs, folded] at held
    rw [(Content.names.inj held).2, Bool.or_false, List.any_filter]
    congr 1
    funext act
    cases act.method <;> decide

/-- Under a dialect that allows one target, a DROP that was given names drops the one whose first
mention comes last. This is the name that was given last exactly if no other name was mentioned for
the first time after it was. -/
theorem render_drop (taken : statement.HasTaken acts)
    (drops : statement.kind.dropped? = some (clause, word))
    (single : statement.dialect.supports .multiTargetDrop = false)
    (nonempty : textsGiven Method.dropping acts ≠ []) (layout : Layout) :
    let names := textsGiven Method.dropping acts
    let keyword :=
      if acts.any (·.method ∈ [Method.dropTableIfExists, Method.dropIndexIfExists]) then
        word ++ " IF EXISTS".toList
      else word
    ∃ target ∈ names, (∀ name ∈ names, names.idxOf name ≤ names.idxOf target) ∧
      statement.render layout =
        (layout.rawText statement.frame.raw ++ layout.rawText (statement.frame.before.get clause) ++
          keyword ++ layout.space ++ target ++ layout.terminator ++
          layout.rawText (statement.frame.after.get clause)).trimEnd ∧
      (target = names.getLast nonempty ↔
        ∀ name ∈ names, names.idxOf name ≤ names.idxOf (names.getLast nonempty)) := by
  intro names keyword
  obtain ⟨target, among, shape, latest⟩ := exists_getLast?_eraseDups nonempty
  refine ⟨target, among, latest, ?_, ?_⟩
  · obtain ⟨held, ifExists⟩ := taken.names_eq drops
    have visible : target ≠ [] := (isFragment_of_mem_textsGiven target among).ne_nil
    have enabled : statement.frame.enables statement.kind clause = true := by
      cases statement <;> cases drops <;> rfl
    have oneTarget : ¬ statement.frame.dialect.supports .multiTargetDrop = true :=
      Bool.eq_false_iff.mp single
    have outline : statement.dropBody.outline statement.frame clause word =
        [.clause clause (.single keyword target)] := by
      rw [DropBody.outline, if_neg oneTarget, held, shape, ifExists, Option.getD_some]
    rw [render, written_dropBody drops, outline, Frame.render, List.flatMap_singleton,
      Segment.render, if_pos enabled, Layout.wrapped, Part.render_single layout keyword visible]
    simp only [List.append_assoc]
  · constructor
    · rintro rfl
      exact latest
    · intro latestToo
      exact eq_of_latest among (List.getLast_mem nonempty) latest latestToo

end HasTaken

/-- A DROP that was given a name, another one, and the first one once more. -/
def twiceGiven : List Act :=
  [⟨.dropTable, [.value (.text "a".toList)]⟩, ⟨.dropTable, [.value (.text "b".toList)]⟩,
   ⟨.dropTable, [.value (.text " a".toList)]⟩]

/-- What such calls leave under a dialect that allows one target. -/
def dropOfTwo : Statement := dropTable { dialect := .sqlite } { names := ["a".toList, "b".toList] }

theorem hasTaken_twiceGiven : dropOfTwo.HasTaken twiceGiven := by
  have made : Request.create ⟨.dropTable, [.value (.text "a".toList)], .dialect .sqlite, []⟩
      .builtIn = .ok (dropTable { dialect := .sqlite } { names := ["a".toList] }) := rfl
  have first := (HasTaken.created made).called
    ⟨"drop_table".toList, [.value (.text "b".toList)]⟩ (by simp) (by simp)
  exact first.called ⟨"drop_table".toList, [.value (.text " a".toList)]⟩ (by simp) (by simp)

theorem render_dropOfTwo :
    dropOfTwo.HasTaken twiceGiven ∧
      textsGiven Method.dropping twiceGiven = ["a".toList, "b".toList, "a".toList] ∧
      dropOfTwo.render .compact = "DROP TABLE b".toList := by
  have given : textsGiven Method.dropping twiceGiven = ["a".toList, "b".toList, "a".toList] := by
    decide
  obtain ⟨target, among, latest, shape, -⟩ :=
    hasTaken_twiceGiven.render_drop rfl rfl (by decide) .compact
  rw [given] at among latest
  have same : target = "b".toList := by
    refine eq_of_latest among (by decide) latest ?_
    decide
  refine ⟨hasTaken_twiceGiven, given, ?_⟩
  rw [shape, same]
  decide

/-- The one target of a DROP need not be the name that it was given last. -/
theorem render_ne_of_twiceGiven :
    ∃ statement acts last, HasTaken statement acts ∧ statement.kind = .dropTable ∧
      statement.dialect.supports .multiTargetDrop = false ∧
      (textsGiven Method.dropping acts).getLast? = some last ∧
      statement.render .compact ≠ "DROP TABLE ".toList ++ last :=
  ⟨dropOfTwo, twiceGiven, "a".toList, hasTaken_twiceGiven, rfl, rfl, by decide, by decide⟩

end Statement
end SqlText
