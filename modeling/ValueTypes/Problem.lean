import ValueTypes.Parser.Position

/-! What can be wrong with a declaration. -/

namespace ValueTypes

inductive Problem where
  | malformed (e : SyntaxError)
  | unnamedTypeHint
  | untypedPayload
  | unnamedCase
  | repeatedCase (name : String)
  | repeatedAttribute (name : String)
  | stated (text : String)
  deriving DecidableEq

def Problem.message : Problem → String
  | malformed e => e.message
  | unnamedTypeHint => "Invalid type annotation"
  | untypedPayload => "Invalid singleAttributeSubtype annotation"
  | unnamedCase => "Algebraic type subtypes must have a name"
  | repeatedCase name =>
    "Algebraic types cannot have two subtypes with the same name, but found two or more subtypes " ++
      "with the name " ++ name
  | repeatedAttribute name =>
    "Value objects cannot have two attributes with the same name, but found two or more " ++
      "attributes with the name " ++ name
  | stated text => text

end ValueTypes
