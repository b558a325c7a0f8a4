import ValueTypes.Feature.Basic
import ValueTypes.Feature.Names

/-! One method for each case that tells whether an object is of it and, through pointers that may be
missing, copies the stored values out. -/

namespace ValueTypes

open Objc

def Nullability.valueQualifier (assumed : Bool) : Nullability → String
  | nonnull => "_Nonnull"
  | nullable => "_Nullable"
  | unspecified => "_Null_unspecified"
  | inherited => if assumed then "_Nonnull" else "_Null_unspecified"

/-- The out-pointer for an attribute is qualified if the declarations of the class are. -/
def Attribute.outType (a : Attribute) (qualified assumed : Bool) : TypeRef where
  name := a.type.name
  reference := a.type.reference ++
    match qualified, a.type.isObject with
    | false, true => "*"
    | false, false => " *"
    | true, true => " " ++ a.nullability.valueQualifier assumed ++ " *_Nullable"
    | true, false => " *_Nullable"

namespace Case

def testKeywords (c : Case) (qualified assumed : Bool) : List Keyword :=
  match c.attributes with
  | [] => [⟨"is" ++ c.name, none⟩]
  | a :: others =>
    attributeKeywords ("is" ++ c.name ++ "With" ++ capitalized a.name)
      (fun b => ⟨b.name, [], b.outType qualified assumed⟩) (a :: others)

def testBody (c : Case) (typeName : String) : List Statement :=
  let value := c.discriminantValue typeName
  match c.attributes with
  | [] => [.act (.answer (.equals discriminant value))]
  | attributes =>
    [.guarded ⟨.differs discriminant value, [.answer (.atom "NO")]⟩] ++
    (attributes.map fun a =>
      .guarded ⟨.atom a.name, [.assign (.pointee a.name) (.atom (c.slot a))]⟩) ++
    [.act (.answer (.atom "YES"))]

def testMethod (c : Case) (typeName : String) (qualified assumed : Bool) : Method where
  comments := []
  compilerAttributes := []
  keywords := c.testKeywords qualified assumed
  returnType := .of (.named "BOOL")
  body := c.testBody typeName

end Case

def caseTestFeature : Feature Case where
  name := "CaseMatching"
  requires := ["RMCaseMatching"]
  contribution d :=
    { instanceMethods := d.members.map fun c =>
        c.testMethod d.name (AlgebraicType.qualifies d) (nonnullByDefault d.includes) }

end ValueTypes
