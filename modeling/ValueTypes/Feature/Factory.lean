import ValueTypes.Feature.Basic
import ValueTypes.Feature.Names

/-! One class method for each case, which makes an object of it. -/

namespace ValueTypes

open Objc

namespace Case

/-- `pairWithFirst:second:` for a case with attributes, a bare `pair` for one without, and just the
attribute for a case that is named after it. -/
def factoryKeywords : Case → List Keyword
  | single payload => [⟨uncapitalized payload.name, some payload.argument⟩]
  | collection name _ [] => [⟨uncapitalized name, none⟩]
  | collection name _ (a :: others) =>
    attributeKeywords (uncapitalized name ++ "With" ++ capitalized a.name) Attribute.argument
      (a :: others)

def factoryBody (c : Case) (typeName : String) : List Statement :=
  [.declarePointer typeName "object" .newSelf,
    .act (.assign (.field "object" discriminant) (.atom (c.discriminantValue typeName)))] ++
  (c.attributes.map fun a =>
    .act (.assign (.field "object" (c.slot a)) (a.stored a.name))) ++
  [.act (.answer (.atom "object"))]

def factory (c : Case) (typeName : String) : Method where
  comments := c.comments
  compilerAttributes := []
  keywords := c.factoryKeywords
  returnType := .of (.named "instancetype")
  body := c.factoryBody typeName

end Case

def factoryFeature : Feature Case where
  name := "Initialization"
  contribution d := { classMethods := d.members.map (·.factory d.name) }

end ValueTypes
