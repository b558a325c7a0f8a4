import ValueTypes.Feature.Basic
import ValueTypes.Feature.Names

/-! Match methods, which take one handler block for each case and call the handler of the case that
the object is. -/

namespace ValueTypes

open Objc

inductive MatchResult where
  | void
  | bool
  | integer
  | double
  deriving DecidableEq

namespace MatchResult

def mark : MatchResult → String
  | void => ""
  | bool => "Bool"
  | integer => "Integer"
  | double => "Double"

def featureName : MatchResult → String
  | void => "VoidMatching"
  | bool => "BoolMatching"
  | integer => "IntegerMatching"
  | double => "DoubleMatching"

def tag (r : MatchResult) : Tag := "RM" ++ r.featureName

def typeAndDefault? : MatchResult → Option (String × String)
  | void => none
  | bool => some ("BOOL", "NO")
  | integer => some ("NSInteger", "0")
  | double => some ("double", "0.0")

def returnType (r : MatchResult) : ReturnType :=
  match r.typeAndDefault? with
  | none => .void
  | some (type, _) => .of (.named type)

end MatchResult

namespace Case

def handlerType (c : Case) (typeName : String) (r : MatchResult) : String :=
  typeName ++ r.mark ++ c.name ++ "MatchHandler"

def handler (c : Case) : String := uncapitalized c.name ++ "MatchHandler"

def handlerParameters (c : Case) : List BlockParameter :=
  c.attributes.map fun a => ⟨a.name, a.type.ref, a.nullability.modifier?⟩

def slots (c : Case) : List String := c.attributes.map c.slot

def blockType (c : Case) (name : String) (returnType : ReturnType) : BlockType where
  comments := []
  name := name
  parameters := c.handlerParameters
  returnType := returnType
  isPublic := true

def handlerArgument (c : Case) (modifiers : List Modifier) (handlerType : String) : Argument :=
  ⟨c.handler, modifiers, .named handlerType⟩

def matchBranch (c : Case) (typeName : String) (r : MatchResult) : Branch where
  label := c.discriminantValue typeName
  body :=
    let call := Expr.call c.handler c.slots
    { condition := .atom c.handler
      actions := [match r.typeAndDefault? with
        | none => .evaluate call
        | some _ => .assign (.atom "result") call] }

end Case

namespace AlgebraicType

def handlerModifiers (d : AlgebraicType) : List Modifier :=
  if d.qualifies then [.noEscape, .nullable] else [.noEscape]

/-- `matchFirst`, then the names of the other cases. -/
def matchParts (d : AlgebraicType) (r : MatchResult) : List String :=
  match d.members with
  | [] => []
  | c :: others => ("match" ++ r.mark ++ c.name) :: others.map fun o => uncapitalized o.name

def matchSignature (d : AlgebraicType) (r : MatchResult) : List Keyword :=
  List.zipWith
    (fun name c => ⟨name, some (c.handlerArgument d.handlerModifiers (c.handlerType d.name r))⟩)
    (d.matchParts r) d.members

def matchBody (d : AlgebraicType) (r : MatchResult) : List Statement :=
  let choice := Statement.switch discriminant (d.members.map (·.matchBranch d.name r))
  match r.typeAndDefault? with
  | none => [choice]
  | some (type, value) =>
    [.declare type "result" (.atom value), choice, .act (.answer (.atom "result"))]

def matchMethod (d : AlgebraicType) (r : MatchResult) : Method where
  comments := []
  compilerAttributes := []
  keywords := d.matchSignature r
  returnType := r.returnType
  body := d.matchBody r

end AlgebraicType

def matchingFeature (r : MatchResult) : Feature Case where
  name := r.featureName
  requires := [r.tag]
  contribution d :=
    { blockTypes := d.members.map fun c => c.blockType (c.handlerType d.name r) r.returnType
      instanceMethods := if d.members.isEmpty then [] else [AlgebraicType.matchMethod d r] }

end ValueTypes
