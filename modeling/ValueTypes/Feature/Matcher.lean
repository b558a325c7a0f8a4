import ValueTypes.Feature.Matching

/-! A matcher class in a file of its own. Its generic method turns a match into a value of the
caller's choice; it works through the match method whose handlers return nothing. -/

namespace ValueTypes

open Objc

def matcherClass (typeName : String) : String := typeName ++ "Matcher"

def matcherResult : String := "ObjectType"

/-- The variable for the matched object, such as `page` for `RMPage`. -/
def matchSubject (typeName : String) : String := uncapitalized (withoutClassTag typeName)

namespace Case

def genericHandlerType (c : Case) (typeName : String) : String :=
  typeName ++ "Generic" ++ c.name ++ "MatchHandler"

def forwardingPart (c : Case) (keyword : String) : BlockPart where
  keyword := keyword
  parameters := c.handlerParameters
  body :=
    { condition := .atom c.handler
      actions := [.assign (.atom "result") (.call c.handler (c.attributes.map (·.name)))] }

end Case

namespace AlgebraicType

def matcherSignature (d : AlgebraicType) : List Keyword :=
  let matched : Argument :=
    { name := matchSubject d.name
      modifiers := if d.qualifies then [.nonnull] else []
      type := ⟨d.name, d.name ++ "*"⟩ }
  ⟨"match", some matched⟩ :: d.members.map fun c =>
    ⟨uncapitalized c.name,
      some (c.handlerArgument d.handlerModifiers (c.genericHandlerType d.name))⟩

def matcherBody (d : AlgebraicType) : List Statement :=
  [.declare "__block id" "result" (.atom "nil"),
    .send (matchSubject d.name)
      (List.zipWith (fun keyword c => c.forwardingPart keyword) (d.matchParts .void)
        d.members),
    .act (.answer (.atom "result"))]

def matcherMethod (d : AlgebraicType) : Method where
  comments := []
  compilerAttributes := []
  keywords := d.matcherSignature
  returnType :=
    { type := some (.named matcherResult)
      modifiers := if d.qualifies then [.nullable] else [] }
  body := d.matcherBody

def matcherFile (d : AlgebraicType) : File where
  name := matcherClass d.name
  imports := [Framework.foundation.umbrella, ⟨matcherClass d.name ++ ".h", none, false⟩,
    ⟨d.name ++ ".h", d.libraryName, true⟩]
  blockTypes := d.members.map fun c =>
    c.blockType (c.genericHandlerType d.name) (.of (.named "id"))
  classes :=
    [{ name := matcherClass d.name
       covariantTypes := [matcherResult]
       classMethods := [d.matcherMethod]
       subclassingRestricted := true }]

end AlgebraicType

def matcherFeature : Feature Case where
  name := "GenericMatching"
  requires := ["RMGenericMatching", MatchResult.tag .void]
  contribution d :=
    { additionalFiles := if d.members.isEmpty then [] else [AlgebraicType.matcherFile d] }

end ValueTypes
