import ValueTypes.Text.Letter

/-! Spelling of derived names. -/

namespace ValueTypes

def mapFirst (f : Char → List Char) (name : String) : String :=
  match name.toList with
  | [] => ""
  | c :: cs => String.ofList (f c ++ cs)

def capitalized (name : String) : String := mapFirst Text.upper name

def uncapitalized (name : String) : String := mapFirst Text.lower name

/-- A type name without its class tag: of the leading run of capitals only the last one stays, so
`FOOPage` becomes `Page`. -/
def withoutClassTag (name : String) : String :=
  String.ofList (name.toList.drop ((name.toList.takeWhile Char.isUpper).length - 1))

end ValueTypes
