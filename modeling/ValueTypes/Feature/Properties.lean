import ValueTypes.Dependencies
import ValueTypes.Feature.Basic
import ValueTypes.Feature.Names

/-! The readonly properties of a value object, and the files that they need. -/

namespace ValueTypes

open Objc

def Nullability.propertyModifier? : Nullability → Option PropertyModifier
  | inherited => none
  | nonnull => some .nonnull
  | nullable => some .nullable
  | unspecified => some .nullUnspecified

def AttributeType.memoryModifier (t : AttributeType) : PropertyModifier :=
  if t.isCopied then .copy else if t.isObject then .strong else .assign

def Attribute.property (a : Attribute) : Property where
  comments := a.comments
  name := a.name
  type := a.type.ref
  modifiers := [.nonatomic, .readonly, a.type.memoryModifier] ++
    a.nullability.propertyModifier?.toList
  access := .external

namespace ValueObject

def dependencies (d : ValueObject) : Dependencies :=
  (Scope.ofDeclaration d).dependencies (d.members.map (·.type))

def nameProblems (d : ValueObject) : List Problem :=
  (repeated (d.members.map (·.name))).map .repeatedAttribute

end ValueObject

def propertiesFeature : Feature Attribute where
  name := "ValueObjectCore"
  problems := ValueObject.nameProblems
  contribution d :=
    { headerComments := d.comments
      imports := (ValueObject.dependencies d).imports
      forwardDeclarations := (ValueObject.dependencies d).forwardDeclarations
      properties := d.members.map Attribute.property
      pointers := if nonnullByDefault d.includes then some .assumedNonnull else none }

end ValueTypes
