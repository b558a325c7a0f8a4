import ValueTypes.Feature.CaseTest
import ValueTypes.Feature.Factory
import ValueTypes.Feature.Initializer
import ValueTypes.Feature.Matcher
import ValueTypes.Feature.Properties
import ValueTypes.Feature.Storage
import ValueTypes.Model.OfSource

/-! The two kinds of declarations with their features, and the way from a text to its files. -/

namespace ValueTypes

open Objc

namespace AlgebraicType

def defaultTags : List Tag :=
  [MatchResult.tag .void, MatchResult.tag .bool, MatchResult.tag .integer, MatchResult.tag .double,
    "RMCaseMatching"]

def features : List (Feature Case) :=
  [storageFeature, factoryFeature, matchingFeature .void, matchingFeature .bool,
    matchingFeature .integer, matchingFeature .double, caseTestFeature, matcherFeature]

def generate : Settings → AlgebraicType → Checked Problem (List File) :=
  generateWith defaultTags features

end AlgebraicType

namespace ValueObject

def defaultTags : List Tag := []

def features : List (Feature Attribute) := [propertiesFeature, initializerFeature]

def generate : Settings → ValueObject → Checked Problem (List File) :=
  generateWith defaultTags features

end ValueObject

inductive Dialect where
  | algebraicType
  | valueObject
  deriving DecidableEq

def generate (kind : Dialect) (settings : Settings) (source : String) :
    Checked Problem (List File) :=
  match kind with
  | .algebraicType => AlgebraicType.read source >>= AlgebraicType.generate settings
  | .valueObject => ValueObject.read source >>= ValueObject.generate settings

end ValueTypes
