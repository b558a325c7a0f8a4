import ValueTypes.Source.Declaration

/-! A layout for declarations: comments, directives and members stand on lines of their own. -/

namespace ValueTypes.Source

def writeBrackets : Option String → List String → String
  | some protocol, _ => "<" ++ protocol ++ ">"
  | none, [] => ""
  | none, types => "<" ++ String.intercalate ", " types ++ ">"

def writeUnderlying : Option String → String
  | some name => "(" ++ name ++ ")"
  | none => ""

mutual

def TypeExpr.write : TypeExpr → String
  | ⟨name, reference, underlying, protocol, generics, _⟩ =>
    name ++ writeBrackets protocol (writeAll generics) ++ writeUnderlying underlying ++
      if reference.toList.getLast? = some '*' then "*" else ""

def TypeExpr.writeAll : List TypeExpr → List String
  | [] => []
  | t :: ts => t.write :: writeAll ts

end

def writeComment (text : String) : String := "# " ++ text ++ "\n"

def writeProperty (property : String × String) : String :=
  " " ++ property.1 ++ "=" ++
    if '"' ∈ property.2.toList then property.2 else "\"" ++ property.2 ++ "\""

def writeDirective (name : String) (properties : Properties) : String :=
  "%" ++ name ++ String.join (properties.toList.map writeProperty) ++ "\n"

def writePreamble (comments : List String) (directives : Directives) : String :=
  String.join (comments.map writeComment) ++
    String.join (directives.toList.flatMap fun entry => entry.2.map (writeDirective entry.1))

def writeTags (keyword : String) (tags : List Tag) : String :=
  if tags.isEmpty then "" else " " ++ keyword ++ "(" ++ String.intercalate ", " tags ++ ")"

def writeHeading (name : String) (includes excludes : List Tag) : String :=
  name ++ writeTags "includes" includes ++ writeTags "excludes" excludes ++
    if name.isEmpty then "" else " "

def writeBlock (entries : List String) : String :=
  "\x7b" ++ String.join (entries.map ("\n" ++ ·)) ++ "\n\x7d"

def Attribute.write (a : Attribute) : String :=
  writePreamble a.comments a.directives ++ a.type.write ++ " " ++ a.name ++ ";"

def Case.write (c : Case) : String :=
  writePreamble c.comments c.directives ++
    if c.directives.contains payloadDirective then c.name
    else writeHeading c.name c.includes c.excludes ++ writeBlock (c.attributes.map Attribute.write)

def Declaration.write {Member : Type} (member : Member → String) (d : Declaration Member) :
    String :=
  writePreamble d.comments d.directives ++ writeHeading d.name d.includes d.excludes ++
    writeBlock (d.members.map member) ++ "\n"

end ValueTypes.Source
