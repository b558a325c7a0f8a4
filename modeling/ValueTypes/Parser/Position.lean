import ValueTypes.Parser.Basic

/-! Where in a text a parser gave up. -/

namespace ValueTypes

/-- Lines and columns count from one, and a column is a number of characters. -/
structure Position where
  line : Nat
  column : Nat
  deriving DecidableEq

def Position.after (before : List Char) : Position where
  line := before.count '\n' + 1
  column := (before.reverse.takeWhile (· ≠ '\n')).length + 1

structure SyntaxError where
  position : Position
  expected : Expected
  deriving DecidableEq

def SyntaxError.message (e : SyntaxError) : String :=
  s!"(line {e.position.line}, column {e.position.column}) expected {e.expected.message}"

def Mismatch.within (why : Mismatch) (source : List Char) : SyntaxError where
  position := .after (source.take (source.length - why.rest.length))
  expected := why.expected

def Parser.parse {α : Type} (p : Parser α) (source : String) : Except SyntaxError α :=
  match p source.toList with
  | .done a _ => .ok a
  | .miss why => .error (why.within source.toList)
  | .halt why => .error (why.within source.toList)

end ValueTypes
