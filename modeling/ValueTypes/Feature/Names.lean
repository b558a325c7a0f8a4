import ValueTypes.Model.Basic
import ValueTypes.Naming
import ValueTypes.Objc.Builtin

/-! Names and rules that several features share. -/

namespace ValueTypes

open Objc

def assumeNonnullTag : Tag := "RMAssumeNonnull"

def nonnullByDefault (tags : List Tag) : Bool := tags.contains assumeNonnullTag

/-- Whether generated declarations carry nullability qualifiers. It holds of all of them or of none,
since a declaration may not mix qualified and unqualified pointers. -/
def qualifies (tags : List Tag) (attributes : List Attribute) : Bool :=
  nonnullByDefault tags || attributes.any (·.nullability ≠ .inherited)

def AlgebraicType.qualifies (d : AlgebraicType) : Bool :=
  ValueTypes.qualifies d.includes d.attributes

def Nullability.modifier? : Nullability → Option Modifier
  | inherited => none
  | nonnull => some .nonnull
  | nullable => some .nullable
  | unspecified => some .nullUnspecified

def AttributeType.ref (t : AttributeType) : TypeRef := ⟨t.name, t.reference⟩

def AttributeType.isCopied (t : AttributeType) : Bool :=
  t.isObject && (builtin? t.name).map (·.kind) == some (.classType true)

def Attribute.stored (a : Attribute) (var : String) : Expr :=
  if a.type.isCopied then .copied var else .atom var

def Attribute.modifiers (a : Attribute) : List Modifier := a.nullability.modifier?.toList

def Attribute.argument (a : Attribute) : Argument := ⟨a.name, a.modifiers, a.type.ref⟩

def attributeKeywords (first : String) (argument : Attribute → Argument) :
    List Attribute → List Keyword
  | [] => []
  | a :: others => ⟨first, some (argument a)⟩ :: others.map fun b => ⟨b.name, some (argument b)⟩

def discriminant : String := "_subtype"

def discriminantType (typeName : String) : String := "_" ++ typeName ++ "Subtypes"

namespace Case

def name : Case → String
  | collection name _ _ => name
  | single payload => capitalized payload.name

def discriminantValue (c : Case) (typeName : String) : String := discriminantType typeName ++ c.name

def slotName (c : Case) (a : Attribute) : String :=
  match c with
  | collection name _ _ => uncapitalized name ++ "_" ++ uncapitalized a.name
  | single _ => uncapitalized a.name

def slot (c : Case) (a : Attribute) : String := "_" ++ c.slotName a

end Case
end ValueTypes
