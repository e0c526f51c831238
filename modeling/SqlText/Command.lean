import SqlText.Layout
import SqlText.Text.Quoted

/-!
# Transaction commands

A command of a transaction script is its keyword and an argument, which may be empty. It cannot be
written if its argument is a value without a text.
-/

set_option autoImplicit false

namespace SqlText

/-- The commands of a transaction script. -/
inductive CommandKind where
  | begin
  | startTransaction
  | setTransaction
  | savepoint
  | releaseSavepoint
  | rollback
  | commit
  | finish
deriving DecidableEq, Repr

namespace CommandKind

/-- Every command once. -/
def all : List CommandKind :=
  [begin, startTransaction, setTransaction, savepoint, releaseSavepoint, rollback, commit, finish]

/-- The command's keyword. -/
def keyword : CommandKind → String
  | begin => "BEGIN"
  | startTransaction => "START TRANSACTION"
  | setTransaction => "SET TRANSACTION"
  | savepoint => "SAVEPOINT"
  | releaseSavepoint => "RELEASE SAVEPOINT"
  | rollback => "ROLLBACK"
  | commit => "COMMIT"
  | finish => "END"

/-- The command's keyword as a text. -/
def word (kind : CommandKind) : Text := kind.keyword.toList

/-- The keyword as one word, with underscores for spaces. -/
def name (kind : CommandKind) : Text := kind.word.map fun c => if c = ' ' then '_' else c

/-- The command with the given keyword. -/
def ofKeyword? (keyword : Text) : Option CommandKind := all.find? (·.word = keyword)

end CommandKind

/-- A command with its argument. -/
structure Command where
  kind : CommandKind
  argument : Text := []
  /-- Whether the argument has a text. -/
  isWritable : Bool := true
deriving DecidableEq, Repr

namespace Command

/-- The command in a layout: the keyword, and the argument unless it is empty. -/
def render (layout : Layout) (command : Command) : Text :=
  if command.argument = [] then command.kind.word
  else command.kind.word ++ layout.space ++ command.argument

end Command
end SqlText
