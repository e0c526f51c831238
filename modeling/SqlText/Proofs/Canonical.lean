import SqlText.Proofs.Joining
import SqlText.Proofs.Reachable
import SqlText.Proofs.Slots.Calls
import SqlText.Proofs.Stored

/-!
# What is kept is kept in one form

A statement keeps its texts in one form, whatever they were given as. They are trimmed, and a list
has none that is empty and none twice (`Statement.IsValid`). The raw text around a clause stands in
one entry, which belongs to a clause of the statement's kind (`Frame.IsIndexed`). New statements are
so, and every call keeps it, even one that fails halfway, and so does another dialect
(`Statement.Reachable.everywhere_isCanonical`).

Renderings leave empty texts out of what they put together. Since there are none, nothing that is
kept is ever left out (`Statement.IsCanonical.filter_stored`).
-/

set_option autoImplicit false

namespace SqlText

open Text

/-! ## One entry for each clause -/

namespace RawText

variable {κ : Type} [DecidableEq κ] {raw : RawText κ}

/-- What is added brings no other key with it. -/
theorem fst_of_mem_add {key : κ} {text : Text} {entry : κ × List Text}
    (member : entry ∈ raw.add key text) : entry.1 = key ∨ entry.1 ∈ raw.map Prod.fst := by
  rcases mem_add member with old | ⟨here, -⟩
  · exact .inr (List.mem_map_of_mem old)
  · exact .inl here

theorem nodup_keys_add (once : (raw.map Prod.fst).Nodup) (key : κ) (text : Text) :
    ((raw.add key text).map Prod.fst).Nodup := by
  induction raw with
  | nil => simp [add]
  | cons head rest ih =>
      obtain ⟨other, texts⟩ := head
      obtain ⟨fresh, others⟩ := List.nodup_cons.mp once
      rw [add]
      by_cases same : other = key
      · rw [if_pos same]
        exact once
      · rw [if_neg same, List.map_cons, List.nodup_cons]
        refine ⟨fun again => ?_, ih others⟩
        obtain ⟨entry, member, here⟩ := List.mem_map.mp again
        rcases fst_of_mem_add member with new | old
        · exact same (here.symm.trans new)
        · exact fresh (here ▸ old)

theorem nodup_keys_pushAll (once : (raw.map Prod.fst).Nodup) (key : κ) (texts : List Text) :
    ((raw.pushAll key texts).map Prod.fst).Nodup := by
  rw [RawText.pushAll]
  induction texts generalizing raw with
  | nil => exact once
  | cons first rest ih =>
      have one : ((raw.push key first).map Prod.fst).Nodup := by
        rw [push]
        split
        · exact once
        · exact nodup_keys_add once key first.trim
      exact ih one

end RawText

/-- Raw text is kept in one entry for each clause. -/
structure Frame.IsIndexed (frame : Frame) : Prop where
  before : (frame.before.map Prod.fst).Nodup
  after : (frame.after.map Prod.fst).Nodup

namespace Statement

theorem isIndexed_of_change {statement changed : Statement} {method : Method}
    {arguments : List Argument} (change : Change method arguments statement changed)
    (indexed : statement.frame.IsIndexed) : changed.frame.IsIndexed := by
  cases change with
  | same => exact indexed
  | raw =>
      rw [addRaw, frame_withFrame]
      exact { indexed with }
  | before =>
      rw [addBefore, frame_withFrame]
      exact { indexed with before := RawText.nodup_keys_pushAll indexed.before _ _ }
  | after =>
      rw [addAfter, frame_withFrame]
      exact { indexed with after := RawText.nodup_keys_pushAll indexed.after _ _ }
  | query => rwa [frame_addQuery]
  | operation | source | entry => exact indexed
  | edit => rwa [frame_edit]

/-! ## Canonical statements -/

/-- The statement keeps its texts trimmed, none of them empty or twice in a list, and its raw text
under its own clauses with one entry for each. -/
structure IsCanonical (statement : Statement) : Prop where
  valid : statement.IsValid
  indexed : statement.frame.IsIndexed

theorem isInvariant_isCanonical : IsInvariant IsCanonical where
  empty kind dialect := by
    refine ⟨isValid_empty kind dialect, ?_⟩
    cases kind <;> exact ⟨List.nodup_nil, List.nodup_nil⟩
  edit method texts canonical :=
    ⟨canonical.valid.edit method texts, by rw [frame_edit]; exact canonical.indexed⟩
  change real change canonical :=
    ⟨isValid_of_change canonical.valid real change, isIndexed_of_change change canonical.indexed⟩
  withDialect dialect canonical := by
    refine ⟨isInvariant_isValid.withDialect dialect canonical.valid, ?_⟩
    rw [withDialect, frame_withFrame]
    exact { canonical.indexed with }

namespace IsCanonical

variable {statement : Statement} (canonical : statement.IsCanonical)
include canonical

/-- Of what is kept for a clause nothing is left out when it is written without empty texts. -/
theorem filter_stored (clause : Clause) :
    (statement.stored clause).filter (· ≠ []) = statement.stored clause :=
  filter_ne_nil fun text member => (canonical.valid.stored clause text member).ne_nil

/-- Of the raw text nothing is left out when it is written without empty texts. -/
theorem filter_raw (clause : Clause) :
    statement.frame.raw.filter (· ≠ []) = statement.frame.raw ∧
      (statement.frame.before.get clause).filter (· ≠ []) = statement.frame.before.get clause ∧
        (statement.frame.after.get clause).filter (· ≠ []) = statement.frame.after.get clause :=
  ⟨filter_ne_nil fun text member => (canonical.valid.frame.raw.fragments text member).ne_nil,
    filter_ne_nil fun _ member =>
      (canonical.valid.frame.before.isFragment_of_mem_get member).ne_nil,
    filter_ne_nil fun _ member =>
      (canonical.valid.frame.after.isFragment_of_mem_get member).ne_nil⟩

end IsCanonical

/-- Whatever comes about is canonical, and so is everything inside it. So the renderings leave out
nothing that is kept for a clause or as raw text. -/
theorem Reachable.everywhere_isCanonical {statement : Statement}
    (reachable : statement.Reachable) :
    statement.Everywhere fun other =>
      other.IsCanonical ∧ ∀ clause,
        (other.stored clause).filter (· ≠ []) = other.stored clause ∧
          other.frame.raw.filter (· ≠ []) = other.frame.raw ∧
            (other.frame.before.get clause).filter (· ≠ []) = other.frame.before.get clause ∧
              (other.frame.after.get clause).filter (· ≠ []) = other.frame.after.get clause := by
  refine (reachable.everywhere isInvariant_isCanonical).mono fun other canonical => ?_
  exact ⟨canonical, fun clause => ⟨canonical.filter_stored clause, canonical.filter_raw clause⟩⟩

/-- A query that is a number. It can be put inside a statement, but not written. -/
def unwritable : Statement :=
  (empty .select .generic).leftBy .withQuery [.value (.text "q".toList), .fixed (.int 5)]

/-- Two columns and one more before a column that cannot be written, under another dialect then. -/
def interrupted : Statement :=
  (twoColumns.leftBy .select
    [.value (.text " c ".toList), .statement unwritable,
      .value (.text "d".toList)]).withDialect .mysql

theorem reachable_interrupted : interrupted.Reachable := by
  have made : Request.create ⟨.select, [], .dialect .generic, []⟩ .builtIn =
      .ok (empty .select .generic) := rfl
  have inner : unwritable.Reachable := by
    refine .called "with_".toList _ (.created made) rfl ?_ ?_
    · exact fun entry member => by simp at member
    · exact fun inner member => by simp at member
  refine .rededicated _ (.called "select".toList _ reachable_twoColumns rfl ?_ ?_)
  · exact fun entry member => by simp at member
  · intro other member
    simp only [List.mem_cons, reduceCtorEq, List.not_mem_nil, or_false, false_or,
      Argument.statement.injEq] at member
    exact member ▸ inner

theorem everywhere_isCanonical_interrupted :
    interrupted.Reachable ∧ interrupted.stored .select = ["a".toList, "b".toList, "c".toList] ∧
      interrupted.IsCanonical :=
  ⟨reachable_interrupted, by decide, reachable_interrupted.everywhere_isCanonical.here.1⟩

end Statement
end SqlText
