import SqlText.Proofs.Taken

/-!
# Transaction scripts

The text of a transaction script is the raw text at its start and its commands, each with a
semicolon behind it, on lines of their own (`Statement.HasTaken.render_transaction`). It is told by
what the script has been given. The single commands are there if the dialect offers them, with the
argument of the last call; the savepoints, rollbacks and statements stand between them, as often as
they were given and in the order of their calls, and a statement has the text that it has alone.
A command without an argument is its keyword, while a statement without text is left out.

What carries the proof is that the terminator stands behind the raw text as it stands behind each
command (`Text.followed`), so that the whole script is one separated list and the last terminator.
-/

set_option autoImplicit false

namespace SqlText

open Text

/-! ## The commands that were asked for -/

namespace CommandKind

/-- The method that asks for a command. -/
def method : CommandKind → Method
  | begin => .begin
  | startTransaction => .startTransaction
  | setTransaction => .setTransaction
  | savepoint => .savepoint
  | releaseSavepoint => .releaseSavepoint
  | rollback => .rollback
  | commit => .commit
  | finish => .finish

/-- Whether a script has the command at most once. -/
def isSingle : CommandKind → Bool
  | begin | startTransaction | setTransaction | commit | finish => true
  | savepoint | releaseSavepoint | rollback => false

theorem opens_word (kind : CommandKind) : Opens kind.word := by
  cases kind <;> exact ⟨_, _, rfl, by decide⟩

theorem closes_word (kind : CommandKind) : Closes kind.word := by
  have trimmed : kind.word.trimEnd = kind.word := by cases kind <;> decide
  have nonempty : kind.word.trimEnd ≠ [] := by cases kind <;> decide
  exact trimmed ▸ closes_trimEnd nonempty

end CommandKind

namespace Act

/-- The text of a command that an act asks for: its keyword, and the trimmed argument behind it
unless nothing is left of that. -/
def commandText (layout : Layout) (kind : CommandKind) (act : Act) : Text :=
  let argument := ((fragments act.arguments).headD []).trim
  if argument = [] then kind.word else kind.word ++ layout.space ++ argument

/-- The text of the entry that an act adds to a script: that of its command, or the text that its
statement has alone, trimmed. -/
def entryText? (layout : Layout) (act : Act) : Option Text :=
  match act.method.entryCommand?, act.method.entryKind?, act.arguments with
  | some kind, _, _ => some (act.commandText layout kind)
  | none, some _, [.statement inner] => some (inner.render layout).trim
  | none, _, _ => none

end Act

/-- The text of a single command as the last of the acts asked for it, if the dialect offers the
command and one did. -/
def lastCommandText (layout : Layout) (dialect : Dialect) (acts : List Act)
    (kind : CommandKind) : List Text :=
  if dialect.offers kind.gate then
    ((acts.filter (·.method = kind.method)).getLast?.map (Act.commandText layout kind)).toList
  else []

/-- The texts of the commands of a script that the acts were given to, in their order. -/
def scriptTexts (layout : Layout) (dialect : Dialect) (acts : List Act) : List Text :=
  let last := lastCommandText layout dialect acts
  last .begin ++ last .startTransaction ++ last .setTransaction ++
    (acts.filterMap (Act.entryText? layout)).filter (· ≠ []) ++
    last .commit ++ last .finish

/-! ## How a script is written -/

theorem Command.isFragment_render (layout : Layout) {command : Command}
    (trimmed : IsValue command.argument) : IsFragment (command.render layout) := by
  rw [render]
  split
  · exact ⟨command.kind.opens_word, command.kind.closes_word⟩
  · rename_i visible
    have closes := (trimmed.isFragment visible).closes
    exact ⟨(command.kind.opens_word.append _).append _, closes.append _⟩

/-- The text of a command that an act asks for is that of the command with the new argument. -/
theorem Act.commandText_eq_render (layout : Layout) (kind : CommandKind) (act : Act) :
    act.commandText layout kind =
      Command.render layout { kind, argument := newValue (fragments act.arguments) } := rfl

theorem Act.isFragment_commandText (layout : Layout) (kind : CommandKind) (act : Act) :
    IsFragment (act.commandText layout kind) := by
  rw [commandText_eq_render]
  exact Command.isFragment_render layout (isValue_newValue _)

theorem Part.flatMap_render_command (layout : Layout) (texts : List Text) :
    texts.flatMap (fun text => (Part.command text).render layout) =
      followed layout.terminator ((givenTexts texts).map (· ++ [';'])) := by
  induction texts with
  | nil => rfl
  | cons first rest ih =>
      have head : (Part.command first).render layout =
          followed layout.terminator (first.trim.unlessEmpty.map (· ++ [';'])) := by
        rw [render, unlessEmpty]
        split
        · rfl
        · rw [List.map_singleton, followed, List.flatMap_singleton, List.append_assoc]
          rfl
      rw [List.flatMap_cons, ih, head, givenTexts_cons, List.map_append, followed_append]

theorem isFragment_of_mem_lastCommandText {layout : Layout} {dialect : Dialect} {acts : List Act}
    {kind : CommandKind} :
    ∀ text ∈ lastCommandText layout dialect acts kind, text.IsFragment := by
  intro text member
  rw [lastCommandText] at member
  split at member
  · obtain ⟨act, -, rfl⟩ := Option.map_eq_some_iff.mp (Option.mem_toList.mp member)
    exact act.isFragment_commandText layout kind
  · cases member

/-- The texts of a single command, which are none or one. -/
def Frame.commandTexts (layout : Layout) (frame : Frame) (kind : CommandKind)
    (argument : Option Text) : List Text :=
  if frame.dialect.offers kind.gate then
    (argument.map fun text => Command.render layout { kind, argument := text }).toList
  else []

theorem Frame.commandSegments_eq_map (layout : Layout) (frame : Frame) (kind : CommandKind)
    (argument : Option Text) :
    frame.commandSegments layout kind.gate kind argument =
      (frame.commandTexts layout kind argument).map fun text => .free (.command text) := by
  rw [commandTexts]
  cases argument with
  | none => cases frame.dialect.offers kind.gate <;> rfl
  | some text =>
      rw [commandSegments]
      cases frame.dialect.offers kind.gate <;> rfl

/-- The texts of the commands of a script. -/
def TransactionBody.commandTexts (layout : Layout) (frame : Frame) (body : TransactionBody)
    (entries : List Text) : List Text :=
  frame.commandTexts layout .begin body.beginMode ++
    frame.commandTexts layout .startTransaction body.startMode ++
    frame.commandTexts layout .setTransaction body.setMode ++ entries ++
    frame.commandTexts layout .commit body.commitArgument ++
    frame.commandTexts layout .finish body.endArgument

theorem TransactionBody.outline_eq_map (layout : Layout) (frame : Frame) (body : TransactionBody)
    (entries : List Text) :
    body.outline layout frame entries =
      (body.commandTexts layout frame entries).map fun text => .free (.command text) := by
  simp only [commandTexts, List.map_append, ← Frame.commandSegments_eq_map]
  rfl

theorem Statement.exists_transaction {statement : Statement}
    (script : statement.kind = .transaction) :
    ∃ frame body entries, statement = transaction frame body entries := by
  cases statement <;> cases script
  exact ⟨_, _, _, rfl⟩

/-- A script is written as its raw text and its commands with the terminator behind each. -/
theorem Statement.written_transaction (layout : Layout) (frame : Frame) (body : TransactionBody)
    (entries : List (Operand Statement)) (visible : ∀ text ∈ frame.raw, text ≠ []) :
    (transaction frame body entries).written layout =
      followed layout.terminator
        (frame.raw ++
          (givenTexts (body.commandTexts layout frame (entryTexts layout entries))).map
            (· ++ [';'])) := by
  rw [written, Frame.render, TransactionBody.outline_eq_map, List.flatMap_map, followed_append,
    ← Part.flatMap_render_command, layout.rawText_eq_followed visible]
  rfl

/-! ## What the single commands hold -/

theorem Kind.bodySlot?_eq_command_iff {kind : CommandKind} (single : kind.isSingle = true)
    (method : Method) :
    Kind.transaction.bodySlot? method = some (.command kind) ↔ method = kind.method := by
  cases kind with
  | savepoint | releaseSavepoint | rollback => cases single
  | _ => cases method <;> decide

namespace Statement.HasTaken

variable {frame : Frame} {body : TransactionBody} {entries : List (Operand Statement)}
  {acts : List Act}

/-- A single command has the argument of the last act that asked for it. -/
theorem command_eq (taken : (transaction frame body entries).HasTaken acts) {kind : CommandKind}
    (single : kind.isSingle = true) :
    body.content (.command kind) =
      .command ((acts.filter (·.method = kind.method)).getLast?.map fun act =>
        newValue (fragments act.arguments)) := by
  have nothing : (empty .transaction frame.dialect).content (.command kind) = .command none := by
    cases kind with
    | savepoint | releaseSavepoint | rollback => cases single
    | _ => rfl
  have notOrdered : ((empty .transaction frame.dialect).content (.command kind)).mode ≠
      .ordered := by
    rw [nothing]
    decide
  have last := taken.content_eq_last frame.dialect notOrdered
  have ofBody : (Slot.command kind).IsOfBody := trivial
  rw [show (transaction frame body entries).kind = .transaction from rfl, nothing,
    Kind.actsAt_eq_filter _ ofBody (Kind.bodySlot?_eq_command_iff single)] at last
  refine Eq.trans last ?_
  cases (acts.filter (·.method = kind.method)).getLast? <;> rfl

/-- So the text of the command is that of the last act that asked for it. -/
theorem commandTexts_eq (taken : (transaction frame body entries).HasTaken acts)
    (kind : CommandKind) (single : kind.isSingle = true) {argument : Option Text}
    (held : body.content (.command kind) = .command argument) (layout : Layout) :
    frame.commandTexts layout kind argument = lastCommandText layout frame.dialect acts kind := by
  rw [taken.command_eq single] at held
  rw [← Content.command.inj held, Frame.commandTexts, lastCommandText, Option.map_map]
  rfl

end Statement.HasTaken

/-! ## What the entries hold -/

theorem Content.foldl_after_entries (given : List (Operand Statement)) (acts : List Act) :
    acts.foldl Content.after (.entries given) =
      .entries (given ++ acts.filterMap fun act => entryGiven? act.method act.arguments) := by
  induction acts generalizing given with
  | nil => rw [List.foldl_nil, List.filterMap_nil, List.append_nil]
  | cons act rest ih =>
      rw [List.foldl_cons, Content.after, Content.write, ih, List.filterMap_cons]
      cases entryGiven? act.method act.arguments with
      | none => rw [Option.toList_none, List.append_nil]
      | some entry => rw [Option.toList_some, List.append_assoc, List.singleton_append]

/-- The text of an entry is that of what was given, trimmed. -/
theorem Act.entryText?_eq (layout : Layout) (act : Act) :
    act.entryText? layout =
      (entryGiven? act.method act.arguments).map fun entry => (operandText layout entry).trim := by
  rw [entryText?.eq_def, entryGiven?]
  cases act.method.entryCommand? with
  | some kind =>
      have fragment := act.isFragment_commandText layout kind
      rw [commandText_eq_render] at fragment
      rw [Option.map_some, operandText, fragment.trim_eq]
      rfl
  | none =>
      cases act.method.entryKind? with
      | none => rfl
      | some kind =>
          rw [statementGiven?.eq_def]
          split <;> simp_all

namespace Statement

namespace HasTaken

section Entries

variable {frame : Frame} {body : TransactionBody} {entries : List (Operand Statement)}
  {acts : List Act}

/-- A script has every entry that was given, in the order in which they were. -/
theorem entries_eq (taken : (transaction frame body entries).HasTaken acts) :
    entries = acts.filterMap fun act => entryGiven? act.method act.arguments := by
  have held : Content.entries entries = _ := taken.content_eq frame.dialect .entries
  have folded := Content.foldl_after_entries [] (Kind.transaction.actsAt .entries acts)
  rw [List.nil_append, Kind.actsAt, List.filterMap_filter] at folded
  rw [Content.entries.inj (held.trans folded)]
  refine List.filterMap_congr fun act _ => ?_
  cases given : entryGiven? act.method act.arguments with
  | none => rw [ite_self]
  | some entry =>
      have ofBody : Slot.entries.IsOfBody := trivial
      have own : Kind.transaction.bodySlot? act.method = some .entries :=
        Method.scriptSlot?_of_entryGiven? given
      have writes := (Kind.slot?_eq_some_iff _ ofBody _ act.arguments).mpr own
      exact if_pos (decide_eq_true writes)

theorem givenTexts_entryTexts (taken : (transaction frame body entries).HasTaken acts)
    (layout : Layout) :
    givenTexts (entryTexts layout entries) =
      (acts.filterMap (Act.entryText? layout)).filter (· ≠ []) := by
  have texts : acts.filterMap (Act.entryText? layout) =
      (entryTexts layout entries).map Text.trim := by
    rw [entryTexts_eq_map, taken.entries_eq, List.map_map, List.map_filterMap]
    exact List.filterMap_congr fun act _ => act.entryText?_eq layout
  rw [givenTexts, texts]

/-- The commands of a script are those that were asked for. -/
theorem givenTexts_commandTexts (taken : (transaction frame body entries).HasTaken acts)
    (layout : Layout) :
    givenTexts (body.commandTexts layout frame (entryTexts layout entries)) =
      scriptTexts layout frame.dialect acts := by
  have single (kind : CommandKind) : givenTexts (lastCommandText layout frame.dialect acts kind) =
      lastCommandText layout frame.dialect acts kind :=
    givenTexts_eq_self isFragment_of_mem_lastCommandText
  rw [TransactionBody.commandTexts, taken.commandTexts_eq .begin rfl rfl,
    taken.commandTexts_eq .startTransaction rfl rfl,
    taken.commandTexts_eq .setTransaction rfl rfl, taken.commandTexts_eq .commit rfl rfl,
    taken.commandTexts_eq .finish rfl rfl]
  simp only [givenTexts_append, single, taken.givenTexts_entryTexts]
  rfl

end Entries

variable {statement : Statement} {acts : List Act}

/-- A statement that a script has taken was the one argument of a call. -/
theorem exists_statement_of_apply {frame : Frame} {body : TransactionBody}
    {entries : List (Operand Statement)} {changed : Statement} {method : Method} {wanted : Kind}
    {arguments : List Argument} (embeds : method.entryKind? = some wanted)
    (fits : (Kind.transaction.arity method).fits arguments.length = true ∨
      (transaction frame body entries).takesEach method = true)
    (applied : (transaction frame body entries).apply method arguments = .ok changed) :
    ∃ inner, arguments = [.statement inner] := by
  have one : Kind.transaction.arity method = .one := by
    cases method <;> cases embeds <;> rfl
  have notEach : (transaction frame body entries).takesEach method = false := by
    rw [takesEach, kind, one]
    rfl
  have length : arguments.length = 1 := by
    simpa [one, notEach, Arity.one, Arity.fits, Nat.le_antisymm_iff, and_comm] using fits
  obtain ⟨argument, rfl⟩ := List.length_eq_one_iff.mp length
  have embedding : (transaction frame body entries).apply method [argument] =
      (do
        let entry ← argument.statementOf wanted .transaction
        pure (transaction frame body (entries ++ [.statement entry]))) := by
    cases method <;> cases embeds <;> rfl
  rw [embedding] at applied
  obtain ⟨inner, found, -⟩ := bind_eq_ok.mp applied
  obtain ⟨rfl, -⟩ := Argument.statementOf_eq_ok found
  exact ⟨inner, rfl⟩

/-- Whatever a script was given as an entry has a text. -/
theorem isSome_entryText? (taken : statement.HasTaken acts) (script : statement.kind = .transaction)
    (layout : Layout) {act : Act} (member : act ∈ acts)
    (adds : act.method.entryCommand?.isSome = true ∨ act.method.entryKind?.isSome = true) :
    (act.entryText? layout).isSome = true := by
  obtain opens | ⟨earlier, changed, same, fits, applied⟩ := taken.exists_apply act member
  · rw [script] at opens
    cases opens
  · obtain ⟨frame, body, entries, rfl⟩ := exists_transaction (same.trans script)
    rw [Act.entryText?.eq_def]
    cases command : act.method.entryCommand? with
    | some kind => rfl
    | none =>
        rw [command] at adds
        obtain ⟨wanted, embeds⟩ := Option.isSome_iff_exists.mp (adds.resolve_left nofun)
        obtain ⟨inner, given⟩ := exists_statement_of_apply embeds fits applied
        rw [embeds, given]
        rfl

/-- The text of a transaction script is made of the raw text and the commands that it was given,
each command with a semicolon behind it. No entry is left out but the statements without text. -/
theorem render_transaction (taken : statement.HasTaken acts)
    (script : statement.kind = .transaction) {layout : Layout} (space : AllBlank layout.space)
    (lineBreak : AllBlank layout.lineBreak) :
    statement.render layout =
        join (layout.space ++ layout.lineBreak)
          ((textsGiven [.raw] acts).eraseDups ++
            (scriptTexts layout statement.dialect acts).map (· ++ [';'])) ∧
      ∀ act ∈ acts, act.method.entryCommand?.isSome = true ∨ act.method.entryKind?.isSome = true →
        (act.entryText? layout).isSome = true := by
  refine ⟨?_, fun act member adds => taken.isSome_entryText? script layout member adds⟩
  obtain ⟨frame, body, entries, rfl⟩ := exists_transaction script
  have raw : frame.raw = (textsGiven [.raw] acts).eraseDups := taken.raw_eq
  have fragments : ∀ text ∈ frame.raw, text.IsFragment := by
    intro text member
    rw [raw] at member
    exact isFragment_of_mem_textsGiven text (List.mem_eraseDups.mp member)
  have semicolon : Closes [';'] := ⟨[], ';', rfl, by decide⟩
  have closes : ∀ text ∈ frame.raw ++ (scriptTexts layout frame.dialect acts).map (· ++ [';']),
      Closes text := by
    intro text member
    rcases List.mem_append.mp member with early | late
    · exact (fragments text early).closes
    · obtain ⟨command, -, rfl⟩ := List.mem_map.mp late
      exact semicolon.append command
  rw [render, written_transaction layout frame body entries
    fun text member => (fragments text member).ne_nil, taken.givenTexts_commandTexts, ← raw]
  exact trimEnd_followed (space.append lineBreak) closes

end HasTaken

/-- What a script was given, in another order than it is written in. -/
def interleaved : List Act :=
  [⟨.savepoint, [.value (.text " a ".toList)]⟩,
   ⟨.begin, [.value (.text "work".toList)]⟩,
   ⟨.select, [.statement twoColumns]⟩,
   ⟨.begin, [.value (.text " ".toList)]⟩,
   ⟨.savepoint, [.value (.text "a".toList)]⟩,
   ⟨.raw, [.value (.text "-- x".toList)]⟩]

/-- What such calls leave. -/
def scripted : Statement :=
  transaction { dialect := .generic, raw := ["-- x".toList] } { beginMode := some [] }
    [.command { kind := .savepoint, argument := "a".toList }, .statement twoColumns,
     .command { kind := .savepoint, argument := "a".toList }]

theorem hasTaken_interleaved : scripted.HasTaken interleaved := by
  let calls : List Call :=
    [⟨"savepoint".toList, [.value (.text " a ".toList)]⟩,
     ⟨"begin".toList, [.value (.text "work".toList)]⟩,
     ⟨"select".toList, [.statement twoColumns]⟩,
     ⟨"begin".toList, [.value (.text " ".toList)]⟩,
     ⟨"savepoint".toList, [.value (.text "a".toList)]⟩,
     ⟨"raw".toList, [.value (.text "-- x".toList)]⟩]
  have made : Request.create ⟨.transaction, [], .dialect .generic, []⟩ .builtIn =
      .ok (empty .transaction .generic) := rfl
  have real : ∀ call ∈ calls, ∀ entry, .member entry ∈ call.arguments → entry ∈ Member.all := by
    simp [calls]
  have inside : ∀ call ∈ calls, ∀ inner, .statement inner ∈ call.arguments → inner.Reachable := by
    simp [calls, reachable_twoColumns]
  exact (HasTaken.created made).leftByAll real inside

theorem render_scripted :
    scripted.HasTaken interleaved ∧
      scripted.render .compact = "-- x BEGIN; SAVEPOINT a; SELECT a, b; SAVEPOINT a;".toList :=
  ⟨hasTaken_interleaved,
    (hasTaken_interleaved.render_transaction rfl (by decide) (by decide)).1.trans (by decide)⟩

end Statement
end SqlText
