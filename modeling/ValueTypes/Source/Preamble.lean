import ValueTypes.Source.Basic
import ValueTypes.Source.Lexical

/-! The lines in front of a declaration, an attribute or a case: comments and directives. -/

namespace ValueTypes.Source

open ValueTypes.Parser

/-- In quotes the value ends at the next quote, which stands on the same line; otherwise it ends at
the next blank. -/
def directiveValue : Parser String := expecting .directiveValue <| orElse
  (do
    word "\""
    commit do
      let text ← run (fun c => c ≠ '"' && c ≠ '\n')
      word "\""
      return String.ofList text)
  (do
    let text ← ensuring .directiveValue (! ·.isEmpty) (run (! Text.isBlank ·))
    return String.ofList text)

def directiveProperty : Parser (String × String) := do
  let key ← identifier
  word "="
  let value ← commit directiveValue
  return (key, value)

def directive : Parser (String × Properties) := do
  word "%"
  let name ← commit identifier
  let properties ← many (do skipSome isInlineBlank; directiveProperty)
  skip isInlineBlank
  return (name, .ofList properties)

inductive Preamble.Line where
  | comment (text : String)
  | directive (name : String) (properties : Properties)

structure Preamble where
  comments : List String
  directives : Directives

def Preamble.empty : Preamble := ⟨[], ∅⟩

def Preamble.add (p : Preamble) : Preamble.Line → Preamble
  | .comment text => { p with comments := p.comments ++ [text] }
  | .directive name properties => { p with directives := p.directives.add name properties }

def Preamble.ofLines (lines : List Preamble.Line) : Preamble := lines.foldl Preamble.add .empty

def preambleLine : Parser Preamble.Line := do
  let line ← orElse (do return .comment (← comment))
    (do let (name, properties) ← directive; return .directive name properties)
  skip isLayout
  return line

def preamble : Parser Preamble := do
  let lines ← many preambleLine
  return .ofLines lines

end ValueTypes.Source
