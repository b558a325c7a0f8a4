import ValueTypes.Text.Blank

/-! Objective-C types as they are spelled in declarations. -/

namespace ValueTypes.Objc

/-- `name` is the bare name, `reference` the full spelling with generic arguments and star. -/
structure TypeRef where
  name : String
  reference : String
  deriving DecidableEq

inductive Modifier where
  | nonnull
  | nullable
  | nullUnspecified
  | noEscape
  deriving DecidableEq

def Modifier.qualifier? : Modifier → Option String
  | nonnull => some "_Nonnull"
  | nullable => some "_Nullable"
  | nullUnspecified => some "_Null_unspecified"
  | noEscape => none

namespace TypeRef

def named (name : String) : TypeRef := ⟨name, name⟩

def trimmed (t : TypeRef) : List Char := Text.trimEnd t.reference.toList

def isStarred (t : TypeRef) : Bool := t.trimmed.getLast? == some '*'

def isObject (t : TypeRef) : Bool := t.isStarred || t.name == "id"

def stem (t : TypeRef) : String :=
  if t.isStarred then String.ofList (Text.trimEnd t.trimmed.dropLast) ++ " *"
  else String.ofList t.trimmed ++ " "

def declare (t : TypeRef) (var : String) : String := t.stem ++ var

def declareQualified (t : TypeRef) (var : String) (modifier : Option Modifier) : String :=
  match modifier.bind Modifier.qualifier? with
  | some qualifier =>
    if t.isObject then t.stem ++ qualifier ++ " " ++ var else t.declare var
  | none => t.declare var

end TypeRef

structure BlockParameter where
  name : String
  type : TypeRef
  nullability : Option Modifier
  deriving DecidableEq

end ValueTypes.Objc
