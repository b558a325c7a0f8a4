import ValueTypes.Source.Basic

/-! Declarations with their directives understood. An algebraic type is one of several cases, a value
object is a flat record. -/

namespace ValueTypes

inductive Nullability where
  | inherited
  | nonnull
  | nullable
  | unspecified
  deriving DecidableEq

structure AttributeType where
  name : String
  reference : String
  underlying : Option String
  file : Option String
  library : Option String
  protocol : Option String
  generics : List AttributeType

/-- An object is held through a pointer; `id` is a pointer without a star. -/
def AttributeType.isObject (t : AttributeType) : Bool :=
  t.reference.toList.getLast? == some '*' || t.name == "id"

structure Attribute where
  name : String
  comments : List String
  directives : Directives
  nullability : Nullability
  type : AttributeType

/-- A case that holds a single attribute is named after it. -/
inductive Case where
  | collection (name : String) (comments : List String) (attributes : List Attribute)
  | single (payload : Attribute)

namespace Case

def attributes : Case → List Attribute
  | collection _ _ attributes => attributes
  | single payload => [payload]

def comments : Case → List String
  | collection _ comments _ => comments
  | single payload => payload.comments

end Case

structure TypeHint where
  name : String
  library : Option String
  file : Option String
  allowsForward : Bool
  deriving DecidableEq

structure Declaration (Member : Type) where
  name : String
  comments : List String
  directives : Directives
  includes : List Tag
  excludes : List Tag
  libraryName : Option String
  typeHints : List TypeHint
  members : List Member

abbrev AlgebraicType := Declaration Case

abbrev ValueObject := Declaration Attribute

def AlgebraicType.attributes (d : AlgebraicType) : List Attribute :=
  d.members.flatMap Case.attributes

end ValueTypes
