import SqlText.Proofs.Joining
import SqlText.Proofs.Reachable
import SqlText.Render.Statement

/-!
# Set operations in closed form

Each set operation trims the text so far, puts it in parentheses and adds a tail to it. In a layout
whose space and line break are blank nothing of this has to be done step by step, as long as no
operand is blank: there are as many opening parentheses as operations, then the text of the other
clauses, and then the tails of the operations in their order (`Combination.apply_eq`). The raw text
before a kind stands in the tail of its first operation and the raw text after it in that of its
last one. At the end stands the raw text of the kinds without an operation.

Where there is nothing before the first operation, the raw text before its kind takes the place of
the other clauses. If there is no such text either, the first operand does, and one pair of
parentheses less is written (`Statement.Reachable.render_setOperations`).

What carries the induction is that the text so far is a fragment with the terminator behind it.
-/

set_option autoImplicit false

namespace SqlText

open Text

/-! ## Raw text -/

/-- Raw text that holds fragments only, with the terminator before it. -/
theorem Layout.terminator_append_rawText (layout : Layout) {fragments : List Text}
    (visible : ∀ text ∈ fragments, text ≠ []) :
    layout.terminator ++ layout.rawText fragments =
      preceded layout.terminator fragments ++ layout.terminator := by
  rw [rawText, filter_ne_nil visible, terminated]
  cases fragments with
  | nil => simp [join, preceded]
  | cons first rest =>
      have head := visible first List.mem_cons_self
      rw [if_neg (join_cons_ne_nil head _ _), append_join_append _ (List.cons_ne_nil first rest)]

/-! ## Tails -/

namespace Combination

variable {κ : Type} [DecidableEq κ] (combination : Combination κ) (layout : Layout)

/-- The raw text before a kind, where an operation is the first one of its kind. -/
def opening (earlier : List κ) (key : κ) : List Text :=
  if key ∈ earlier then [] else combination.before key

/-- The raw text after a kind, where an operation is the last one of its kind. -/
def ending (later : List κ) (key : κ) : List Text :=
  if key ∈ later then [] else combination.after key

/-- What an operation puts behind its left side: a parenthesis, its keyword, its operand in
parentheses and the raw text after its kind. -/
def closing (later : List κ) (key : κ) (operand : Text) : Text :=
  ')' :: layout.terminator ++ combination.keyword key ++ layout.space ++ '(' :: operand ++
    ')' :: preceded layout.terminator (combination.ending later key)

/-- What the operations put behind the text before them, in their order. -/
def tails (earlier : List κ) : List (κ × Text) → Text
  | [] => []
  | (key, operand) :: rest =>
      preceded layout.space (combination.opening earlier key) ++
        combination.closing layout (rest.map Prod.fst) key operand.trim ++
        tails (key :: earlier) rest

/-- The raw text of the kinds without an operation, each fragment behind the terminator. -/
def unusedTail (keys used : List κ) : Text :=
  preceded layout.terminator
    ((keys.filter (· ∉ used)).flatMap fun key => combination.before key ++ combination.after key)

/-- A combination whose raw text is made of fragments. -/
structure IsKept : Prop where
  before : ∀ key, ∀ text ∈ combination.before key, IsFragment text
  after : ∀ key, ∀ text ∈ combination.after key, IsFragment text

variable {combination layout}

section

variable (kept : combination.IsKept)
include kept

theorem IsKept.opening (earlier : List κ) (key : κ) :
    ∀ text ∈ combination.opening earlier key, IsFragment text := by
  rw [Combination.opening]
  split
  · exact nofun
  · exact kept.before key

theorem IsKept.ending (later : List κ) (key : κ) :
    ∀ text ∈ combination.ending later key, IsFragment text := by
  rw [Combination.ending]
  split
  · exact nofun
  · exact kept.after key

theorem closes_closing (layout : Layout) (later : List κ) (key : κ) (operand : Text) :
    Closes (combination.closing layout later key operand) := by
  have parenthesis : Closes [')'] := ⟨[], ')', rfl, by decide⟩
  exact (parenthesis.append_preceded _ (kept.ending later key)).append _

theorem closes_append_tails (layout : Layout) {text : Text} (closes : Closes text)
    (earlier : List κ) (operations : List (κ × Text)) :
    Closes (text ++ combination.tails layout earlier operations) := by
  induction operations generalizing text earlier with
  | nil => rwa [tails, List.append_nil]
  | cons first rest ih =>
      have closed := closes_closing kept layout (rest.map Prod.fst) first.1 first.2.trim
      have longer := closed.append
        (text ++ preceded layout.space (combination.opening earlier first.1))
      have whole := ih longer (first.1 :: earlier)
      rwa [tails, ← List.append_assoc, ← List.append_assoc]

/-! ## One operation -/

section Operation

variable (space : AllBlank layout.space)
include space

/-- The left side of an operation is the text so far, with the raw text before the kind behind it
if the operation is the first one of its kind. -/
theorem leftSide_eq {text : Text} (fragment : IsFragment text.trim) (earlier : List κ) (key : κ) :
    combination.leftSide layout earlier text key =
      text.trim ++ preceded layout.space (combination.opening earlier key) := by
  have longer := fragment.append_preceded layout.space (kept.opening earlier key)
  rw [leftSide]
  by_cases again : key ∈ earlier
  · rw [if_pos again, opening, if_pos again, preceded_nil, List.append_nil]
  · rw [opening, if_neg again] at longer ⊢
    rw [if_neg again]
    by_cases isEmpty : combination.before key = []
    · rw [isEmpty, join, List.intercalate_nil, List.append_nil, preceded_nil, List.append_nil]
      exact fragment.trim_append space
    · rw [List.append_assoc, append_join _ isEmpty]
      exact longer.trim_eq

/-- Where there is nothing so far, the left side is the raw text before the kind. -/
theorem leftSide_of_blank {text : Text} (blank : text.trim = []) (key : κ) :
    combination.leftSide layout [] text key = join layout.space (combination.before key) := by
  rw [leftSide, if_neg List.not_mem_nil, blank, List.nil_append, trim_append_left space]
  by_cases isEmpty : combination.before key = []
  · rw [isEmpty]
    rfl
  · exact (isFragment_join isEmpty (kept.before key)).trim_eq

end Operation

/-- An operation with something on both sides puts its left side in parentheses. -/
theorem step_of_left {earlier : List κ} (later : List κ) {text : Text} {key : κ} {operand : Text}
    (left : combination.leftSide layout earlier text key ≠ []) (visible : operand.trim ≠ []) :
    combination.step layout earlier later text key operand =
      '(' :: combination.leftSide layout earlier text key ++
        combination.closing layout later key operand.trim ++ layout.terminator := by
  have raw := layout.terminator_append_rawText fun text member =>
    (kept.after key text member).ne_nil
  rw [step, Layout.combined, if_neg left, if_neg visible, closing, ending]
  split
  · simp only [List.append_assoc, List.cons_append, preceded_nil, List.nil_append]
  · simp only [List.append_assoc, List.cons_append, ← raw]

/-- An operation with nothing on its left side leaves its operand as it is. -/
theorem step_of_blank {earlier : List κ} (later : List κ) {text : Text} {key : κ} {operand : Text}
    (left : combination.leftSide layout earlier text key = []) (visible : operand.trim ≠ []) :
    combination.step layout earlier later text key operand =
      operand.trim ++ preceded layout.terminator (combination.ending later key) ++
        layout.terminator := by
  have raw := layout.terminator_append_rawText fun text member =>
    (kept.after key text member).ne_nil
  rw [step, Layout.combined, if_pos left, Layout.terminated, if_neg visible, ending]
  split
  · rw [preceded_nil, List.append_nil]
  · rw [List.append_assoc, List.append_assoc, raw]

/-! ## All operations -/

variable (space : AllBlank layout.space) (lineBreak : AllBlank layout.lineBreak)
include space lineBreak

/-- The operations put as many opening parentheses before a text as there are, and their tails
behind it. -/
theorem apply_eq {core : Text} (fragment : IsFragment core) (earlier : List κ)
    {operations : List (κ × Text)} (visible : ∀ operation ∈ operations, operation.2.trim ≠ []) :
    combination.apply layout earlier (core ++ layout.terminator) operations =
      List.replicate operations.length '(' ++ core ++
        combination.tails layout earlier operations ++ layout.terminator := by
  induction operations generalizing core earlier with
  | nil => simp only [apply, tails, List.length_nil, List.replicate_zero, List.nil_append,
      List.append_nil]
  | cons first rest ih =>
      obtain ⟨key, operand⟩ := first
      have head : operand.trim ≠ [] := visible _ List.mem_cons_self
      have others : ∀ operation ∈ rest, operation.2.trim ≠ [] :=
        fun operation member => visible operation (List.mem_cons_of_mem _ member)
      have trimmed : trim (core ++ layout.terminator) = core :=
        fragment.trim_append (space.append lineBreak)
      have left : combination.leftSide layout earlier (core ++ layout.terminator) key =
          core ++ preceded layout.space (combination.opening earlier key) := by
        rw [leftSide_eq kept space (trimmed.symm ▸ fragment), trimmed]
      have nonempty : core ++ preceded layout.space (combination.opening earlier key) ≠ [] :=
        fun isEmpty => fragment.ne_nil (List.append_eq_nil_iff.mp isEmpty).1
      -- The text behind this operation is a fragment again, because it ends with its tail.
      have opens :
          Opens ('(' :: (core ++ preceded layout.space (combination.opening earlier key))) :=
        ⟨'(', _, rfl, by decide⟩
      have closed := closes_closing kept layout (rest.map Prod.fst) key operand.trim
      have whole : IsFragment
          ('(' :: (core ++ preceded layout.space (combination.opening earlier key)) ++
            combination.closing layout (rest.map Prod.fst) key operand.trim) :=
        ⟨opens.append _, closed.append _⟩
      rw [apply, step_of_left kept _ (left ▸ nonempty) head, left, ih whole (key :: earlier) others,
        tails, List.length_cons, List.replicate_succ']
      simp only [List.append_assoc, List.cons_append, List.nil_append]

/-- The operations behind the first one, which leaves a fragment. -/
theorem apply_cons {text core : Text} {key : κ} {operand : Text} {rest : List (κ × Text)}
    (fragment : IsFragment core) (visible : ∀ operation ∈ rest, operation.2.trim ≠ [])
    (stepped : combination.step layout [] (rest.map Prod.fst) text key operand =
      core ++ layout.terminator) :
    combination.apply layout [] text ((key, operand) :: rest) =
      List.replicate rest.length '(' ++ core ++ combination.tails layout [key] rest ++
        layout.terminator := by
  rw [apply, stepped, apply_eq kept space lineBreak fragment [key] visible]

omit space lineBreak in
/-- The raw text of the kinds without an operation, with the terminator before it. -/
theorem terminator_append_unused (layout : Layout) (keys used : List κ) :
    layout.terminator ++ keys.flatMap (combination.unused layout used) =
      combination.unusedTail layout keys used ++ layout.terminator := by
  induction keys with
  | nil => simp only [List.flatMap_nil, unusedTail, List.filter_nil, preceded, List.append_nil,
      List.nil_append]
  | cons key rest ih =>
      have before := layout.terminator_append_rawText fun text member =>
        (kept.before key text member).ne_nil
      have after := layout.terminator_append_rawText fun text member =>
        (kept.after key text member).ne_nil
      by_cases known : key ∈ used
      · rw [List.flatMap_cons, unused, if_pos known, List.nil_append, ih, unusedTail, unusedTail,
          List.filter_cons_of_neg (by simpa using known)]
      · have tail : combination.unusedTail layout (key :: rest) used =
            preceded layout.terminator (combination.before key) ++
              preceded layout.terminator (combination.after key) ++
                combination.unusedTail layout rest used := by
          rw [unusedTail, List.filter_cons_of_pos (by simpa using known), List.flatMap_cons,
            preceded_append, preceded_append, ← unusedTail]
        rw [List.flatMap_cons, unused, if_neg known, Layout.wrapped, List.append_nil, tail]
        simp only [← List.append_assoc]
        rw [before]
        simp only [List.append_assoc]
        rw [← ih, ← List.append_assoc layout.terminator, after]
        simp only [List.append_assoc]

/-- What is left of the combination at its end, when the operations leave a text that closes with a
visible character. -/
theorem trimEnd_render {core text : Text} {keys : List κ} {operations : List (κ × Text)}
    (closes : Closes core)
    (applied : combination.apply layout [] text operations = core ++ layout.terminator) :
    (combination.render layout keys text operations).trimEnd =
      core ++ combination.unusedTail layout keys (operations.map Prod.fst) := by
  have kept' : ∀ text ∈ (keys.filter (· ∉ operations.map Prod.fst)).flatMap
      fun key => combination.before key ++ combination.after key, IsFragment text := by
    intro other member
    obtain ⟨key, -, among⟩ := List.mem_flatMap.mp member
    rcases List.mem_append.mp among with earlier | later
    · exact kept.before key other earlier
    · exact kept.after key other later
  have closes' := closes.append_preceded layout.terminator kept'
  rw [render, applied, List.append_assoc, terminator_append_unused kept, ← List.append_assoc]
  exact closes'.trimEnd_append (space.append lineBreak)

/-- With something on the left side of the first operation, every operation has its pair of
parentheses. -/
theorem render_of_left {text left : Text} {key : κ} {operand : Text} {rest : List (κ × Text)}
    (keys : List κ) (fragment : IsFragment left)
    (shape : combination.leftSide layout [] text key = left)
    (visible : ∀ operation ∈ (key, operand) :: rest, operation.2.trim ≠ []) :
    (combination.render layout keys text ((key, operand) :: rest)).trimEnd =
      List.replicate (rest.length + 1) '(' ++ left ++
        combination.closing layout (rest.map Prod.fst) key operand.trim ++
        combination.tails layout [key] rest ++
        combination.unusedTail layout keys (key :: rest.map Prod.fst) := by
  have head : operand.trim ≠ [] := visible _ List.mem_cons_self
  have others : ∀ operation ∈ rest, operation.2.trim ≠ [] :=
    fun operation member => visible operation (List.mem_cons_of_mem _ member)
  have nonempty : combination.leftSide layout [] text key ≠ [] := shape ▸ fragment.ne_nil
  have stepped := step_of_left kept (rest.map Prod.fst) nonempty head
  have closed := closes_closing kept layout (rest.map Prod.fst) key operand.trim
  have opens : Opens ('(' :: left) := ⟨'(', _, rfl, by decide⟩
  rw [shape] at stepped
  have applied := apply_cons kept space lineBreak ⟨opens.append _, closed.append _⟩ others stepped
  have closes := closes_append_tails kept layout
    (closed.append (List.replicate rest.length '(' ++ '(' :: left)) [key] rest
  rw [List.append_assoc (List.replicate rest.length '(')] at closes
  rw [trimEnd_render kept space lineBreak closes applied, List.replicate_succ']
  simp only [List.append_assoc, List.cons_append, List.nil_append, List.map_cons]

/-- With nothing on the left side of the first operation, its operand takes the place of the text
before it. -/
theorem render_of_blank {text : Text} {key : κ} {operand : Text} {rest : List (κ × Text)}
    (keys : List κ) (shape : combination.leftSide layout [] text key = [])
    (visible : ∀ operation ∈ (key, operand) :: rest, operation.2.trim ≠ []) :
    (combination.render layout keys text ((key, operand) :: rest)).trimEnd =
      List.replicate rest.length '(' ++ operand.trim ++
        preceded layout.terminator (combination.ending (rest.map Prod.fst) key) ++
        combination.tails layout [key] rest ++
        combination.unusedTail layout keys (key :: rest.map Prod.fst) := by
  have head : operand.trim ≠ [] := visible _ List.mem_cons_self
  have others : ∀ operation ∈ rest, operation.2.trim ≠ [] :=
    fun operation member => visible operation (List.mem_cons_of_mem _ member)
  have stepped := step_of_blank kept (rest.map Prod.fst) shape head
  have fragment := (isFragment_trim head).append_preceded layout.terminator
    (kept.ending (rest.map Prod.fst) key)
  have applied := apply_cons kept space lineBreak fragment others stepped
  have closes := closes_append_tails kept layout
    (fragment.closes.append (List.replicate rest.length '(')) [key] rest
  rw [trimEnd_render kept space lineBreak closes applied]
  simp only [List.append_assoc, List.map_cons]

end

end Combination

/-! ## Statements -/

/-- The text of the clauses of a SELECT before its set operations, without blank characters around
it. -/
def SelectBody.clauseText (layout : Layout) (frame : Frame) (body : SelectBody)
    (queries : List (Text × Operand Statement)) : Text :=
  (frame.render layout .select (body.outline (queryTexts layout.nested queries))).trim

theorem Frame.IsValid.combination {clauses : List Clause} {frame : Frame}
    (valid : frame.IsValid clauses) : frame.combination.IsKept where
  before _ _ member := valid.before.isFragment_of_mem_get member
  after _ _ member := valid.after.isFragment_of_mem_get member

theorem Layout.wrapped_nil (layout : Layout) : layout.wrapped [] [] [] = [] := rfl

/-- Without operations and raw text around them, a combination is the text alone. -/
theorem Frame.combination_render_nil (frame : Frame) (layout : Layout) (text : Text)
    (before : ∀ operation : SetOperation, frame.before.get operation.clause = [])
    (after : ∀ operation : SetOperation, frame.after.get operation.clause = []) :
    frame.combination.render layout SetOperation.all text [] = text := by
  have unused (operation : SetOperation) :
      frame.combination.unused layout [] operation = [] := by
    simp [Combination.unused, Frame.combination, before, after, Layout.wrapped_nil]
  simp [Combination.render, Combination.apply, SetOperation.all, unused]

namespace Statement

/-- The text of a SELECT with set operations, if no operand is blank. Its clauses stand in as many
parentheses as there are operations. Where there are no such clauses, the raw text before the kind
of the first operation stands in their place, and where this is missing, too, the first operand
does. -/
theorem Reachable.render_setOperations {frame : Frame} {body : SelectBody}
    {queries : List (Text × Operand Statement)} {kind : SetOperation}
    {operand : Operand Statement} {rest : List (SetOperation × Operand Statement)}
    {layout : Layout}
    (reachable : (select frame body queries ((kind, operand) :: rest)).Reachable)
    (supported : frame.dialect.supports .setOperations = true)
    (visible : ∀ operation ∈ (kind, operand) :: rest, (operandText layout operation.2).trim ≠ [])
    (space : AllBlank layout.space) (lineBreak : AllBlank layout.lineBreak) :
    let text := (select frame body queries ((kind, operand) :: rest)).render layout
    let clauses := body.clauseText layout frame queries
    let before := frame.before.get kind.clause
    let others := operationTexts layout rest
    let later := rest.map Prod.fst
    let unused := frame.combination.unusedTail layout SetOperation.all (kind :: later)
    (clauses ≠ [] → text =
      List.replicate (rest.length + 1) '(' ++ clauses ++
        frame.combination.tails layout [] ((kind, operandText layout operand) :: others) ++
        unused) ∧
    (clauses = [] → before ≠ [] → text =
      List.replicate (rest.length + 1) '(' ++ join layout.space before ++
        frame.combination.closing layout later kind (operandText layout operand).trim ++
        frame.combination.tails layout [kind] others ++ unused) ∧
    (clauses = [] → before = [] → text =
      List.replicate rest.length '(' ++ (operandText layout operand).trim ++
        preceded layout.terminator (frame.combination.ending later kind) ++
        frame.combination.tails layout [kind] others ++ unused) := by
  intro text clauses before others later unused
  have kept : frame.combination.IsKept := reachable.isValid.here.frame.combination
  have mapped : others = _ := operationTexts_eq_map layout rest
  have length : rest.length = others.length := by rw [mapped, List.length_map]
  have kinds : later = others.map Prod.fst := by
    rw [mapped, List.map_map]
    rfl
  have texts : ∀ operation ∈ (kind, operandText layout operand) :: others,
      operation.2.trim ≠ [] := by
    intro operation member
    rcases List.mem_cons.mp member with rfl | among
    · exact visible _ List.mem_cons_self
    · rw [mapped] at among
      obtain ⟨source, inside, rfl⟩ := List.mem_map.mp among
      exact visible source (List.mem_cons_of_mem _ inside)
  have written : (select frame body queries ((kind, operand) :: rest)).written layout =
      frame.combination.render layout SetOperation.all
        (frame.render layout .select (body.outline (queryTexts layout.nested queries)))
        ((kind, operandText layout operand) :: others) := by
    rw [Statement.written, SelectBody.render, if_pos supported, operationTexts]
  have shape := congrArg Text.trimEnd written
  refine ⟨?_, ?_, ?_⟩
  · intro nonempty
    have fragment : IsFragment clauses := isFragment_trim nonempty
    have left := frame.combination.leftSide_eq kept space fragment [] kind
    have longer := fragment.append_preceded layout.space (kept.opening [] kind)
    have whole := Combination.render_of_left kept space lineBreak SetOperation.all longer left texts
    rw [← length, ← kinds] at whole
    refine (shape.trans whole).trans ?_
    rw [Combination.tails, ← kinds]
    simp only [List.append_assoc, unused, clauses]
  · intro blank raw
    have left := frame.combination.leftSide_of_blank kept space blank kind
    have fragment : IsFragment (join layout.space before) :=
      isFragment_join raw (kept.before kind)
    have whole :=
      Combination.render_of_left kept space lineBreak SetOperation.all fragment left texts
    rw [← length, ← kinds] at whole
    exact shape.trans whole
  · intro blank raw
    have left := frame.combination.leftSide_of_blank kept space blank kind
    rw [show frame.combination.before kind = [] from raw] at left
    have whole := Combination.render_of_blank kept space lineBreak SetOperation.all left texts
    rw [← length, ← kinds] at whole
    exact shape.trans whole

/-- Calls that give raw text to two kinds of set operations, and operations of two kinds. -/
def combining : List (Text × List Argument) :=
  [("raw_before".toList, [.value (.text "union".toList), .value (.text "/* b */".toList)]),
   ("raw_after".toList, [.value (.text "union".toList), .value (.text "/* a */".toList)]),
   ("raw_after".toList, [.value (.text "except".toList), .value (.text "/* e */".toList)]),
   ("union".toList, [.statement twoColumns]),
   ("intersect".toList, [.statement united]),
   ("union".toList, [.statement twoColumns])]

/-- Two columns combined with others in two ways, with raw text around the operations. -/
def combinedTwice : Statement :=
  select
    { dialect := .generic
      before := [(.union, ["/* b */".toList])]
      after := [(.union, ["/* a */".toList]), (.except, ["/* e */".toList])] }
    { columns := ["a".toList, "b".toList] } []
    [(.union, .statement twoColumns), (.intersect, .statement united),
     (.union, .statement twoColumns)]

theorem reachable_combinedTwice : combinedTwice.Reachable := by
  have succeed : combining.foldlM (fun statement call => statement.call call.1 call.2)
      twoColumns = .ok combinedTwice := rfl
  refine reachable_twoColumns.foldlM_call (fun call member entry => ?_)
    (fun call member inner given => ?_) succeed
  · revert call
    simp [combining]
  · have known : inner = twoColumns ∨ inner = united := by
      revert call
      simp +contextual [combining]
    rcases known with rfl | rfl
    · exact reachable_twoColumns
    · exact reachable_united

theorem render_combinedTwice :
    combinedTwice.Reachable ∧
      combinedTwice.render .compact =
        ("(((SELECT a, b /* b */) UNION (SELECT a, b)) INTERSECT " ++
          "((SELECT a, b) UNION (SELECT a, b))) UNION (SELECT a, b) /* a */ /* e */").toList := by
  have visible : ∀ operation ∈ [(SetOperation.union, Operand.statement twoColumns),
      (.intersect, .statement united), (.union, .statement twoColumns)],
      (operandText .compact operation.2).trim ≠ [] := by decide
  have closed := Reachable.render_setOperations reachable_combinedTwice rfl visible
    (by decide) (by decide)
  exact ⟨reachable_combinedTwice, (closed.1 (by decide)).trans (by decide +kernel)⟩

end Statement

end SqlText
