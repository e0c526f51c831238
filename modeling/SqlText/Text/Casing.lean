import SqlText.Text.CaseTable

/-!
# Upper and lower case

Both follow the full mappings of Unicode, so a character may become several: the sharp s is two
letters in upper case, a capital I with a dot is two code points in lower case. A capital sigma
becomes a final sigma at the end of a word, that is, after a letter and not before one, where
marks and apostrophes in between do not count.
-/

set_option autoImplicit false

namespace SqlText.Text

/-- The image of a code point under the first run that holds it, or the code point itself. -/
def mapCase (runs : List CaseRun) (c : Char) : Char :=
  match runs.findSome? (·.image? c.toNat) with
  | some code => Char.ofNat code
  | none => c

/-- The upper case of one character. -/
def upperChar (c : Char) : Text :=
  match upperSequences.lookup c.toNat with
  | some codes => codes.map Char.ofNat
  | none => [mapCase upperRuns c]

/-- The upper case of a text. -/
def upper (text : Text) : Text := text.flatMap upperChar

/-- Whether the first character that counts is a letter with a case. -/
def startsCased (text : Text) : Bool :=
  match text.dropWhile fun c => inRuns caseIgnorableRuns c.toNat with
  | [] => false
  | c :: _ => inRuns casedRuns c.toNat

/-- The lower case of one character between those before it, nearest first, and those after. -/
def lowerChar (before : Text) (c : Char) (after : Text) : Text :=
  if c = 'Σ' then
    if startsCased before && !startsCased after then ['ς'] else ['σ']
  else if c = 'İ' then ['i', Char.ofNat 0x307]
  else [mapCase lowerRuns c]

/-- The lower case of a text after the characters in `before`, nearest first. -/
def lowerAfter (before : Text) : Text → Text
  | [] => []
  | c :: rest => lowerChar before c rest ++ lowerAfter (c :: before) rest

/-- The lower case of a text. -/
def lower (text : Text) : Text := lowerAfter [] text

end SqlText.Text
