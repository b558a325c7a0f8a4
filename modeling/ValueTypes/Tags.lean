import ValueTypes.Distinct
import ValueTypes.Source.Basic

/-! Tags in force. A tag is in force if it is a default, configured or declared, and excluded neither
by the configuration nor by the declaration. -/

namespace ValueTypes

structure Settings where
  includes : List Tag := []
  excludes : List Tag := []

def tagsInForce (defaults : List Tag) (settings : Settings) (includes excludes : List Tag) :
    List Tag :=
  appendNew [] ((defaults ++ settings.includes ++ includes).filter
    fun tag => tag ∉ settings.excludes ++ excludes)

end ValueTypes
