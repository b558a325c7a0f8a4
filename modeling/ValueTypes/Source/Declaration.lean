import ValueTypes.Source.Preamble
import ValueTypes.Source.TypeExpr

/-! The grammar of declarations. A value object is a name with a body of attributes, an algebraic type
a name with a body of cases; both may carry comments, directives and tags. -/

namespace ValueTypes.Source

open ValueTypes.Parser

def tagList (keyword : String) : Parser (List Tag) := do
  word keyword
  skip isLayout
  word "("
  commit do
    skip isLayout
    let tags ← sepBy comma identifier
    skip isLayout
    word ")"
    return tags

structure TagLists where
  includes : List Tag
  excludes : List Tag

def TagLists.append (a b : TagLists) : TagLists :=
  ⟨a.includes ++ b.includes, a.excludes ++ b.excludes⟩

def tagGroup : Parser TagLists := do
  skip isLayout
  orElse (do return ⟨← tagList "includes", []⟩) (do return ⟨[], ← tagList "excludes"⟩)

def tagLists : Parser TagLists := do
  let lists ← many tagGroup
  return lists.foldl TagLists.append ⟨[], []⟩

def attributeEntry : Parser Attribute := do
  let ⟨comments, directives⟩ ← preamble
  let type ← typeExpr
  let name ← commit (inline identifier)
  let _ ← optional (inline (word ";"))
  return { comments, directives, name, type }

def attributeBlock : Parser (List Attribute) := do
  word "\x7b"
  commit <| manyUntil (do skip isLayout; attributeEntry) (do gap; word "\x7d")

/-- The directive that declares a case by the type of its only attribute. -/
def payloadDirective : String := "singleAttributeSubtype"

def Preamble.payloadType? (p : Preamble) : Option String :=
  (p.directives.last? payloadDirective).bind (·.get? "attributeType")

def payloadCase (p : Preamble) : Parser Case := fun s =>
  (do
    let name ← commit identifier
    let _ ← optional (inline (word ";"))
    let bare : Case := { p with name, includes := [], excludes := [], attributes := [], payload := none }
    match p.payloadType? with
    | none => return bare
    | some text =>
      match TypeExpr.parse text with
      | .ok type => return { bare with payload := some { p with name, type } }
      | .error _ => fun _ => .halt ⟨s, .payloadType⟩ : Parser Case) s

/-- A case with a body. Its name may be missing. -/
def braceCase (p : Preamble) : Parser Case := do
  let name ← run isWordChar
  let tags ← tagLists
  skip isLayout
  let attributes ← attributeBlock
  return { p, tags with name := String.ofList name, attributes, payload := none }

def bareCase (p : Preamble) : Parser Case := do
  let name ← identifier
  let tags ← tagLists
  return { p, tags with name, attributes := [], payload := none }

def caseEntry : Parser Case := do
  let p ← preamble
  if p.directives.contains payloadDirective then payloadCase p
  else orElse (braceCase p) (bareCase p)

def caseSeparators : Parser Unit := do
  let _ ← many (orElse (skipSome isLayout) (word ","))

def caseBlock : Parser (List Case) := do
  word "\x7b"
  manyUntil (do caseSeparators; caseEntry) (do commaGap; word "\x7d")

def declaration {Member : Type} (body : Parser (List Member)) : Parser (Declaration Member) := do
  skip isLayout
  let p ← preamble
  let name ← identifier
  let tags ← tagLists
  skip isLayout
  let members ← body
  gap
  endOfInput
  return { p, tags with name, members }

def algebraicType : Parser (Declaration Case) := declaration caseBlock

def valueObject : Parser (Declaration Attribute) := declaration attributeBlock

end ValueTypes.Source
