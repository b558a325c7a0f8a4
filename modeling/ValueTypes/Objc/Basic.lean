import ValueTypes.Objc.Code

/-! Generated Objective-C files, as data for a renderer. -/

namespace ValueTypes.Objc

/-- A public import goes into the header, a private one into the implementation. -/
structure Import where
  file : String
  library : Option String
  isPublic : Bool
  deriving DecidableEq

inductive ForwardDeclaration where
  | classNamed (name : String)
  | protocolNamed (name : String)
  deriving DecidableEq

structure Enumeration where
  name : String
  underlyingType : TypeRef
  values : List String
  isPublic : Bool
  deriving DecidableEq

structure Argument where
  name : String
  modifiers : List Modifier
  type : TypeRef
  deriving DecidableEq

structure Keyword where
  name : String
  argument : Option Argument
  deriving DecidableEq

structure ReturnType where
  type : Option TypeRef
  modifiers : List Modifier
  deriving DecidableEq

def ReturnType.void : ReturnType := ⟨none, []⟩

def ReturnType.of (type : TypeRef) : ReturnType := ⟨some type, []⟩

structure Method where
  comments : List String
  compilerAttributes : List String
  keywords : List Keyword
  returnType : ReturnType
  body : List Statement
  deriving DecidableEq

def Keyword.selector (k : Keyword) : String :=
  match k.argument with
  | some _ => k.name ++ ":"
  | none => k.name

def selector (keywords : List Keyword) : String := String.join (keywords.map Keyword.selector)

def Method.selector (m : Method) : String := Objc.selector m.keywords

def Method.code (m : Method) : List String := m.body.flatMap Statement.lines

structure BlockType where
  comments : List String
  name : String
  parameters : List BlockParameter
  returnType : ReturnType
  isPublic : Bool
  deriving DecidableEq

inductive Access where
  | internal
  | external
  deriving DecidableEq

structure InstanceVariable where
  name : String
  type : TypeRef
  access : Access
  deriving DecidableEq

inductive PropertyModifier where
  | nonatomic
  | readonly
  | copy
  | strong
  | assign
  | nonnull
  | nullable
  | nullUnspecified
  deriving DecidableEq

structure Property where
  comments : List String
  name : String
  type : TypeRef
  modifiers : List PropertyModifier
  access : Access
  deriving DecidableEq

structure Macro where
  name : String
  value : String
  deriving DecidableEq

structure Constant where
  comments : List String
  type : TypeRef
  name : String
  value : String
  deriving DecidableEq

inductive PointerRegion where
  | unmarked
  | assumedNonnull
  deriving DecidableEq

structure ClassModel where
  name : String
  baseClassName : String := "NSObject"
  covariantTypes : List String := []
  implementedProtocols : List String := []
  classMethods : List Method := []
  instanceMethods : List Method := []
  properties : List Property := []
  instanceVariables : List InstanceVariable := []
  pointers : PointerRegion := .unmarked
  subclassingRestricted : Bool := false
  deriving DecidableEq

structure File where
  name : String
  comments : List String := []
  imports : List Import := []
  forwardDeclarations : List ForwardDeclaration := []
  enumerations : List Enumeration := []
  blockTypes : List BlockType := []
  staticConstants : List Constant := []
  macros : List Macro := []
  classes : List ClassModel := []
  deriving DecidableEq

end ValueTypes.Objc
