import ValueTypes.Objc.Basic

/-! The types that come with the system frameworks. -/

namespace ValueTypes.Objc

inductive Framework where
  | foundation
  | coreGraphics
  deriving DecidableEq

def Framework.name : Framework → String
  | foundation => "Foundation"
  | coreGraphics => "CoreGraphics"

def Framework.umbrella (f : Framework) : Import := ⟨f.name ++ ".h", some f.name, true⟩

inductive BuiltinKind where
  | scalar
  | object
  | classType (copyable : Bool)
  deriving DecidableEq

structure Builtin where
  framework : Framework
  kind : BuiltinKind
  deriving DecidableEq

def foundationScalars : List String :=
  ["BOOL", "NSInteger", "NSUInteger", "NSTimeInterval", "NSRange", "char", "signed char",
    "unsigned char", "short", "unsigned short", "int", "unsigned int", "long", "unsigned long",
    "long long", "unsigned long long", "float", "double", "long double", "bool", "size_t", "int8_t",
    "int16_t", "int32_t", "int64_t", "uint8_t", "uint16_t", "uint32_t", "uint64_t"]

def graphicsScalars : List String := ["CGFloat", "CGPoint", "CGSize", "CGRect"]

def genericObjects : List String := ["id", "Class", "SEL"]

def copiedClasses : List String :=
  ["NSArray", "NSAttributedString", "NSData", "NSDate", "NSDecimalNumber", "NSDictionary",
    "NSIndexSet", "NSNumber", "NSOrderedSet", "NSSet", "NSString", "NSURL", "NSUUID", "NSValue"]

def otherClasses : List String :=
  ["NSObject", "NSError", "NSMutableArray", "NSMutableDictionary", "NSMutableSet",
    "NSMutableString", "NSMutableData", "NSMutableOrderedSet"]

def builtin? (name : String) : Option Builtin :=
  if name ∈ foundationScalars then some ⟨.foundation, .scalar⟩
  else if name ∈ graphicsScalars then some ⟨.coreGraphics, .scalar⟩
  else if name ∈ genericObjects then some ⟨.foundation, .object⟩
  else if name ∈ copiedClasses then some ⟨.foundation, .classType true⟩
  else if name ∈ otherClasses then some ⟨.foundation, .classType false⟩
  else none

def builtinHeader? (name : String) : Option Import := (builtin? name).map (·.framework.umbrella)

end ValueTypes.Objc
