import ValueTypes.Dict

/-! Declarations as they are written: directives are still plain texts, and nothing is checked beyond
the grammar. -/

namespace ValueTypes

abbrev Tag := String

abbrev Properties := Dict String

abbrev Directives := Dict (List Properties)

def Directives.occurrences (ds : Directives) (name : String) : List Properties :=
  (ds.get? name).getD []

def Directives.last? (ds : Directives) (name : String) : Option Properties :=
  (ds.occurrences name).getLast?

def Directives.add (ds : Directives) (name : String) (properties : Properties) : Directives :=
  ds.insert name (ds.occurrences name ++ [properties])

namespace Source

/-- `reference` is the full spelling, with generic arguments and star; `name` is the bare name. -/
structure TypeExpr where
  name : String
  reference : String
  underlying : Option String
  protocol : Option String
  generics : List TypeExpr
  isPointer : Bool

structure Attribute where
  comments : List String
  directives : Directives
  name : String
  type : TypeExpr

structure Case where
  comments : List String
  directives : Directives
  name : String
  includes : List Tag
  excludes : List Tag
  attributes : List Attribute
  payload : Option Attribute

structure Declaration (Member : Type) where
  comments : List String
  directives : Directives
  name : String
  includes : List Tag
  excludes : List Tag
  members : List Member

end Source
end ValueTypes
