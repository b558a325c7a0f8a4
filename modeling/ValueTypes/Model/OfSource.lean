import ValueTypes.Checked
import ValueTypes.Model.Basic
import ValueTypes.Problem
import ValueTypes.Source.Declaration

/-! From written declarations to their meaning. A problem in one directive does not hide the problems
of the others: all of them are reported. -/

namespace ValueTypes

def Nullability.ofDirectives (ds : Directives) : Nullability :=
  if ds.contains "nonnull" then nonnull
  else if ds.contains "nullable" then nullable
  else if ds.contains "null_unspecified" then unspecified
  else inherited

namespace AttributeType

mutual

/-- Without a stated underlying type, a pointer is backed by `NSObject`. Only the outermost type is
located; its generic arguments are not. -/
def ofSource (file library : Option String) : Source.TypeExpr → AttributeType
  | ⟨name, reference, underlying, protocol, generics, isPointer⟩ =>
    { name, reference, file, library, protocol
      underlying := underlying <|> (if isPointer then some "NSObject" else none)
      generics := ofSources generics }

def ofSources : List Source.TypeExpr → List AttributeType
  | [] => []
  | t :: ts => ofSource none none t :: ofSources ts

end

end AttributeType

def Attribute.ofSource (a : Source.Attribute) : Attribute :=
  let located := a.directives.last? "import"
  { a with
    nullability := .ofDirectives a.directives
    type := .ofSource (located.bind (·.get? "file")) (located.bind (·.get? "library")) a.type }

def Case.ofSource (c : Source.Case) : Checked Problem Case :=
  match c.payload with
  | some payload => .ok (single (.ofSource payload))
  | none =>
    if c.directives.contains Source.payloadDirective then .error [.untypedPayload]
    else .ok (collection c.name c.comments (c.attributes.map .ofSource))

def TypeHint.ofProperties (properties : Properties) : Checked Problem TypeHint :=
  match properties.get? "name" with
  | none => .error [.unnamedTypeHint]
  | some name => .ok
    { name
      library := properties.get? "library"
      file := properties.get? "file"
      allowsForward := properties.get? "canForwardDeclare" != some "false" }

def TypeHint.ofDirectives (ds : Directives) : Checked Problem (List TypeHint) :=
  .all ((ds.occurrences "type").map ofProperties)

variable {Written Member : Type}

def Declaration.ofSource (member : Written → Checked Problem Member)
    (d : Source.Declaration Written) : Checked Problem (Declaration Member) :=
  match Checked.both (TypeHint.ofDirectives d.directives) (.all (d.members.map member)) with
  | .error problems => .error problems
  | .ok (typeHints, members) => .ok
    { d with
      libraryName := (d.directives.last? "library").bind (·.get? "name")
      typeHints
      members }

def AlgebraicType.ofSource : Source.Declaration Source.Case → Checked Problem AlgebraicType :=
  Declaration.ofSource Case.ofSource

def ValueObject.ofSource : Source.Declaration Source.Attribute → Checked Problem ValueObject :=
  Declaration.ofSource fun a => .ok (.ofSource a)

def readWith (parser : Parser (Source.Declaration Written))
    (ofSource : Source.Declaration Written → Checked Problem (Declaration Member))
    (source : String) : Checked Problem (Declaration Member) :=
  match parser.parse source with
  | .ok d => ofSource d
  | .error e => .error [.malformed e]

def AlgebraicType.read : String → Checked Problem AlgebraicType :=
  readWith Source.algebraicType ofSource

def ValueObject.read : String → Checked Problem ValueObject :=
  readWith Source.valueObject ofSource

end ValueTypes
