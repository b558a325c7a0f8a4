import ValueTypes.Distinct
import ValueTypes.Model.Basic
import ValueTypes.Objc.Builtin

/-! What a generated file has to import or to declare ahead for the types that it mentions. -/

namespace ValueTypes

open Objc

def forwardTag : Tag := "UseForwardDeclarations"

structure Scope where
  typeName : String
  libraryName : Option String
  typeHints : List TypeHint
  prefersForward : Bool

namespace Scope

def make (typeName : String) (libraryName : Option String) (typeHints : List TypeHint)
    (tags : List Tag) : Scope :=
  { typeName, libraryName, typeHints, prefersForward := tags.contains forwardTag }

def ofDeclaration {Member : Type} (d : Declaration Member) : Scope :=
  .make d.name d.libraryName d.typeHints d.includes

def hint? (scope : Scope) (name : String) : Option TypeHint :=
  scope.typeHints.find? (·.name == name)

end Scope

inductive Need where
  | header (i : Import)
  | forward (f : ForwardDeclaration)
  deriving DecidableEq

namespace Need

def header? : Need → Option Import
  | header i => some i
  | forward _ => none

def forward? : Need → Option ForwardDeclaration
  | header _ => none
  | forward f => some f

end Need

/-- A file needs Foundation and its own header. A type hint that names the declared type itself
asks for its forward declaration. -/
def Scope.ownNeeds (scope : Scope) : List Need :=
  [.header Framework.foundation.umbrella, .header ⟨scope.typeName ++ ".h", none, false⟩] ++
    if (scope.hint? scope.typeName).isSome then [.forward (.classNamed scope.typeName)] else []

def Scope.protocolNeed (scope : Scope) (name : String) : Need :=
  if scope.prefersForward then .forward (.protocolNamed name)
  else
    let hint := scope.hint? name
    .header
      { file := (hint.bind (·.file)).getD (name ++ ".h")
        library := hint.bind (·.library) <|> scope.libraryName
        isPublic := true }

namespace AttributeType

def header (scope : Scope) (t : AttributeType) (isPublic : Bool) : Import :=
  let hint := scope.hint? t.name
  { file := (t.file <|> hint.bind (·.file)).getD (t.name ++ ".h")
    library := t.library <|> hint.bind (·.library) <|> scope.libraryName
    isPublic }

def isDeclaredAhead (scope : Scope) (t : AttributeType) : Bool :=
  scope.prefersForward && ((scope.hint? t.name).map (·.allowsForward)).getD true && t.isObject

/-- What the bare name of a type asks for. A class that is declared ahead is still imported by the
implementation. -/
def nameNeeds (scope : Scope) (t : AttributeType) : List Need :=
  match builtinHeader? t.name with
  | some i => [.header i]
  | none =>
    if t.name = scope.typeName then [.forward (.classNamed t.name)]
    else if t.isDeclaredAhead scope then
      [.forward (.classNamed t.name), .header (t.header scope false)]
    else [.header (t.header scope true)]

mutual

def needs (scope : Scope) : AttributeType → List Need
  | ⟨name, reference, underlying, file, library, protocol, generics⟩ =>
    (protocol.map scope.protocolNeed).toList ++ listNeeds scope generics ++
      nameNeeds scope ⟨name, reference, underlying, file, library, protocol, generics⟩

def listNeeds (scope : Scope) : List AttributeType → List Need
  | [] => []
  | t :: ts => needs scope t ++ listNeeds scope ts

end

end AttributeType

structure Dependencies where
  imports : List Import
  forwardDeclarations : List ForwardDeclaration
  deriving DecidableEq

def Dependencies.ofNeeds (needs : List Need) : Dependencies where
  imports := appendNew [] (needs.filterMap Need.header?)
  forwardDeclarations := appendNew [] (needs.filterMap Need.forward?)

def Scope.dependencies (scope : Scope) (types : List AttributeType) : Dependencies :=
  .ofNeeds (scope.ownNeeds ++ AttributeType.listNeeds scope types)

end ValueTypes
