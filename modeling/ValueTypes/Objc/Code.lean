import ValueTypes.Objc.Type

/-! Method bodies. They are kept as statements; `Statement.lines` is their text. -/

namespace ValueTypes.Objc

def indent (depth : Nat) (line : String) : String := String.join (List.replicate depth "  ") ++ line

inductive Expr where
  | atom (spelling : String)
  | copied (var : String)
  | field (object name : String)
  | pointee (pointer : String)
  | equals (left right : String)
  | differs (left right : String)
  | call (block : String) (arguments : List String)
  | newSelf
  | superInit
  deriving DecidableEq

def Expr.text : Expr → String
  | atom spelling => spelling
  | copied var => "[" ++ var ++ " copy]"
  | field object name => object ++ "->" ++ name
  | pointee pointer => "*" ++ pointer
  | equals left right => left ++ " == " ++ right
  | differs left right => left ++ " != " ++ right
  | call block arguments => block ++ "(" ++ String.intercalate ", " arguments ++ ")"
  | newSelf => "[(id)self new]"
  | superInit => "(self = [super init])"

inductive Action where
  | evaluate (value : Expr)
  | assign (place value : Expr)
  | answer (value : Expr)
  deriving DecidableEq

def Action.text : Action → String
  | evaluate value => value.text ++ ";"
  | assign place value => place.text ++ " = " ++ value.text ++ ";"
  | answer value => "return " ++ value.text ++ ";"

structure Guarded where
  condition : Expr
  actions : List Action
  deriving DecidableEq

def Guarded.lines (g : Guarded) (depth : Nat) : List String :=
  indent depth ("if (" ++ g.condition.text ++ ") \x7b") ::
    g.actions.map (fun a => indent (depth + 1) a.text) ++ [indent depth "\x7d"]

structure Branch where
  label : String
  body : Guarded
  deriving DecidableEq

def Branch.lines (b : Branch) : List String :=
  indent 1 ("case " ++ b.label ++ ": \x7b") ::
    b.body.lines 2 ++ [indent 2 "break;", indent 1 "\x7d"]

structure BlockPart where
  keyword : String
  parameters : List BlockParameter
  body : Guarded
  deriving DecidableEq

def BlockPart.lines (p : BlockPart) : List String :=
  let parameters := p.parameters.map fun q => q.type.declareQualified q.name q.nullability
  indent 1 (p.keyword ++ ":^(" ++ String.intercalate ", " parameters ++ ") \x7b") ::
    p.body.lines 2 ++ [indent 1 "\x7d"]

inductive Statement where
  | act (action : Action)
  | declare (type var : String) (value : Expr)
  | declarePointer (type var : String) (value : Expr)
  | guarded (body : Guarded)
  | switch (subject : String) (branches : List Branch)
  | send (receiver : String) (parts : List BlockPart)
  | emptyLine
  deriving DecidableEq

def Statement.lines : Statement → List String
  | act action => [action.text]
  | declare type var value => [type ++ " " ++ var ++ " = " ++ value.text ++ ";"]
  | declarePointer type var value => [type ++ " *" ++ var ++ " = " ++ value.text ++ ";"]
  | guarded body => body.lines 0
  | switch subject branches =>
    ("switch (" ++ subject ++ ") \x7b") :: branches.flatMap Branch.lines ++ ["\x7d"]
  | send receiver parts => ("[" ++ receiver) :: parts.flatMap BlockPart.lines ++ ["];"]
  | emptyLine => [""]

end ValueTypes.Objc
