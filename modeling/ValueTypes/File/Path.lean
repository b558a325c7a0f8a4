import ValueTypes.Generate

/-! Paths with `/` between their parts, and the kind of declaration that a path tells. -/

namespace ValueTypes.Path

def parts : List Char → List (List Char)
  | [] => [[]]
  | c :: s =>
    if c = '/' then [] :: parts s
    else
      match parts s with
      | [] => [[c]]
      | part :: others => (c :: part) :: others

def fileName? (path : String) : Option (List Char) :=
  match ((parts path.toList).filter fun part => part ≠ [] && part ≠ ['.']).getLast? with
  | some ['.', '.'] => none
  | name => name

/-- What follows the last dot of the file name. A dot in front of the name starts no extension. -/
def extension? (path : String) : Option String :=
  match fileName? path with
  | none => none
  | some name =>
    match name.reverse.dropWhile (· ≠ '.') with
    | [] => none
    | [_] => none
    | _ => some (String.ofList (name.reverse.takeWhile (· ≠ '.')).reverse)

end Path

def Dialect.ofPath (path : String) : Dialect :=
  if Path.extension? path = some "value" then valueObject else algebraicType

end ValueTypes
