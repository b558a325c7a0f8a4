import ValueTypes.Parser.Repetition
import ValueTypes.Text.Blank

/-! Identifiers, blanks and comments. -/

namespace ValueTypes.Source

open ValueTypes.Parser

def isInlineBlank (c : Char) : Bool := c == ' ' || c == '\t'

def isLayout (c : Char) : Bool := c == ' ' || c == '\t' || c == '\r' || c == '\n'

def isWordStart (c : Char) : Bool := c.isAlpha || c == '_'

def isWordChar (c : Char) : Bool := c.isAlphanum || c == '_'

def identifier : Parser String
  | [] => .miss ⟨[], .identifier⟩
  | c :: s =>
    if isWordStart c then
      .done (String.ofList (c :: s.takeWhile isWordChar)) (s.dropWhile isWordChar)
    else .miss ⟨c :: s, .identifier⟩

/-- From `#` to the end of the line, which is not read; the text is trimmed. -/
def comment : Parser String := do
  word "#"
  let text ← run (· ≠ '\n')
  return String.ofList (Text.trim text)

def gap : Parser Unit := do
  let _ ← many (orElse (skipSome isLayout) (do let _ ← comment))

def commaGap : Parser Unit := do
  let _ ← many (orElse (skipSome isLayout) (orElse (word ",") (do let _ ← comment)))

def comma : Parser Unit := do
  skip isLayout
  word ","
  skip isLayout

def inline {α : Type} (p : Parser α) : Parser α := do
  skip isInlineBlank
  p

end ValueTypes.Source
