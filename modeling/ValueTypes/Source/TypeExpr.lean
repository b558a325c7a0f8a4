import ValueTypes.Parser.Position
import ValueTypes.Source.Basic
import ValueTypes.Source.Lexical

/-! The grammar of attribute types: a name, then generic arguments or a protocol in angle brackets,
an underlying type in parentheses and a star, each of which may be missing. -/

namespace ValueTypes.Source

open ValueTypes.Parser

/-- Scalar names of several words; a longer name comes before its beginnings. -/
def scalarPhrases : List (List String) :=
  [["unsigned", "long", "long"], ["unsigned", "short"], ["unsigned", "char"], ["unsigned", "long"],
    ["unsigned", "int"], ["signed", "char"], ["long", "double"], ["long", "long"]]

def phrase : List String → Parser Unit
  | [] => pure ()
  | [w] => do let _ ← ensuring .identifier (· == w) identifier
  | w :: ws => do
    let _ ← ensuring .identifier (· == w) identifier
    skipSome isInlineBlank
    phrase ws

def scalarName (words : List String) : Parser String := do
  expecting .identifier (phrase words)
  return String.intercalate " " words

def typeName : Parser String :=
  scalarPhrases.foldr (fun words others => orElse (scalarName words) others) identifier

inductive Arguments where
  | none
  | generics (types : List TypeExpr)
  | protocol (name : String)

namespace Arguments

def text : Arguments → String
  | none => ""
  | generics types => "<" ++ String.intercalate ", " (types.map (·.reference)) ++ ">"
  | protocol name => "<" ++ name ++ ">"

def types : Arguments → List TypeExpr
  | generics types => types
  | _ => []

def protocol? : Arguments → Option String
  | protocol name => some name
  | _ => Option.none

end Arguments

def TypeExpr.make (name : String) (arguments : Arguments) (underlying : Option String)
    (star : Bool) : TypeExpr where
  name := name
  reference := name ++ arguments.text ++ (if star then "*" else "")
  underlying := underlying
  protocol := arguments.protocol?
  generics := arguments.types
  isPointer := star || name == "id"

def pointerArgument (type : Parser TypeExpr) : Parser TypeExpr :=
  expecting .pointerType (ensuring .pointerType (·.isPointer) type)

/-- Pointer types, or else one protocol. -/
def argumentList (type : Parser TypeExpr) : Parser Arguments := orElse
  (do return .generics (← sepBy1 comma (pointerArgument type)))
  (do return .protocol (← identifier))

def typeArguments (type : Parser TypeExpr) : Parser Arguments := do
  word "<"
  skip isLayout
  let arguments ← commit (argumentList type)
  commit do
    skip isLayout
    word ">"
  return arguments

def underlyingType : Parser String := do
  word "("
  let name ← commit (inline identifier)
  commit (inline (word ")"))
  return name

def typeExprRule (type : Parser TypeExpr) : Parser TypeExpr := do
  let name ← typeName
  let arguments ← optional (inline (typeArguments type))
  let underlying ← optional (inline underlyingType)
  let star ← optional (inline (word "*"))
  return .make name (arguments.getD .none) underlying star.isSome

def typeExpr : Parser TypeExpr := nested typeExprRule

def wholeTypeExpr : Parser TypeExpr := do
  skip isLayout
  let type ← typeExpr
  skip isLayout
  endOfInput
  return type

def TypeExpr.parse (source : String) : Except SyntaxError TypeExpr := wholeTypeExpr.parse source

end ValueTypes.Source
