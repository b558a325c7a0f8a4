import ValueTypes.Feature.Basic
import ValueTypes.Feature.Names

/-! The designated initializer of a value object, with one argument for each attribute. -/

namespace ValueTypes

open Objc

def initializerBody (attributes : List Attribute) : List Statement :=
  [.guarded
      { condition := .superInit
        actions := attributes.map fun a => .assign (.atom ("_" ++ a.name)) (a.stored a.name) },
    .emptyLine, .act (.answer (.atom "self"))]

def initializer (first : Attribute) (others : List Attribute) : Method where
  comments := []
  compilerAttributes := ["NS_DESIGNATED_INITIALIZER"]
  keywords := attributeKeywords ("initWith" ++ capitalized first.name) Attribute.argument
    (first :: others)
  returnType := .of (.named "instancetype")
  body := initializerBody (first :: others)

def initializerFeature : Feature Attribute where
  name := "ValueObjectInitializer"
  contribution d :=
    { instanceMethods := match d.members with
        | [] => []
        | first :: others => [initializer first others] }

end ValueTypes
