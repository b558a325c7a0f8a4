import ValueTypes.Dependencies
import ValueTypes.Feature.Basic
import ValueTypes.Feature.Names

/-! The storage of an algebraic type: the enumeration of its cases, one instance variable for each
attribute of each case, and the files that these need. -/

namespace ValueTypes

open Objc

namespace AlgebraicType

def dependencies (d : AlgebraicType) : Dependencies :=
  (Scope.ofDeclaration d).dependencies (d.attributes.map (·.type))

def enumeration (d : AlgebraicType) : Enumeration where
  name := discriminantType d.name
  underlyingType := .named "NSUInteger"
  values := d.members.map (·.discriminantValue d.name)
  isPublic := false

def instanceVariables (d : AlgebraicType) : List InstanceVariable :=
  ⟨discriminant, .named (discriminantType d.name), .internal⟩ ::
    d.members.flatMap fun c =>
      c.attributes.map fun a => ⟨c.slot a, a.type.ref, .internal⟩

def missingNameProblems (d : AlgebraicType) : List Problem :=
  (d.members.filter (·.name.isEmpty)).map fun _ => .unnamedCase

def repetitionProblems (d : AlgebraicType) : List Problem :=
  (repeated (d.members.map Case.name)).map .repeatedCase

def nameProblems (d : AlgebraicType) : List Problem :=
  d.missingNameProblems ++ d.repetitionProblems

end AlgebraicType

def storageFeature : Feature Case where
  name := "AlgebraicTypeCore"
  problems := AlgebraicType.nameProblems
  contribution d :=
    { headerComments := d.comments
      imports := (AlgebraicType.dependencies d).imports
      forwardDeclarations := (AlgebraicType.dependencies d).forwardDeclarations
      enumerations := [AlgebraicType.enumeration d]
      instanceVariables := AlgebraicType.instanceVariables d
      pointers := if nonnullByDefault d.includes then some .assumedNonnull else none
      subclassingRestricted := true }

end ValueTypes
