/-!
# Texts and the blank characters around them

A text is the list of its characters, so that lengths count code points and every fact about
the rendered statements is a fact about lists. `isBlank` is the class of characters that
surround a fragment without belonging to it: the ASCII controls that space or separate, the
Unicode spaces, and the line and paragraph separators. Format characters such as the zero-width
space are not blank.
-/

set_option autoImplicit false

namespace SqlText

/-- A text is the list of its characters. -/
abbrev Text := List Char

-- A named instance, so that every test for membership in a list of texts uses the same one.
instance : LawfulBEq Text := inferInstance

namespace Text

/-- Whether a code point lies in one of the runs, each given by its first and last point. -/
def inRuns (runs : List (Nat × Nat)) (code : Nat) : Bool :=
  runs.any fun run => decide (run.1 ≤ code) && decide (code ≤ run.2)

/-- The runs of blank code points. -/
def blankRuns : List (Nat × Nat) :=
  [(0x09, 0x0d), (0x1c, 0x20), (0x85, 0x85), (0xa0, 0xa0), (0x1680, 0x1680), (0x2000, 0x200a),
   (0x2028, 0x2029), (0x202f, 0x202f), (0x205f, 0x205f), (0x3000, 0x3000)]

/-- The characters that are removed around a fragment. -/
def isBlank (c : Char) : Bool := inRuns blankRuns c.toNat

/-- The text without the blank characters at its start. -/
def trimStart (text : Text) : Text := text.dropWhile isBlank

/-- The text without the blank characters at its end. -/
def trimEnd (text : Text) : Text := (text.reverse.dropWhile isBlank).reverse

/-- The text without the blank characters at its two ends. -/
def trim (text : Text) : Text := trimEnd (trimStart text)

/-- A text of blank characters only. -/
def AllBlank (text : Text) : Prop := ∀ c ∈ text, isBlank c = true

instance (text : Text) : Decidable (AllBlank text) :=
  List.decidableBAll (fun c => isBlank c = true) text

/-- The texts one after another, with the separator between any two of them. -/
def join (separator : Text) (texts : List Text) : Text := separator.intercalate texts

end Text
end SqlText
