import ValueTypes.Objc.Basic
import ValueTypes.Text.Json

/-! Generated files as JSON. -/

namespace ValueTypes.Objc

def TypeRef.json (t : TypeRef) : Json :=
  .object [("name", .text t.name), ("reference", .text t.reference)]

def Import.json (i : Import) : Json :=
  .object [("file", .text i.file), ("library", .ofOption .text i.library),
    ("is_public", .bool i.isPublic)]

def ForwardDeclaration.json : ForwardDeclaration → Json
  | classNamed name => .object [("Class", .text name)]
  | protocolNamed name => .object [("Protocol", .text name)]

def Enumeration.json (e : Enumeration) : Json :=
  .object [("name", .text e.name), ("underlying_type", e.underlyingType.json),
    ("values", .texts e.values), ("is_public", .bool e.isPublic)]

def Modifier.label : Modifier → String
  | nonnull => "Nonnull"
  | nullable => "Nullable"
  | nullUnspecified => "NullUnspecified"
  | noEscape => "NoEscape"

def Modifier.json (m : Modifier) : Json := .text m.label

def Argument.json (a : Argument) : Json :=
  .object [("name", .text a.name), ("modifiers", .ofList Modifier.json a.modifiers),
    ("type_", a.type.json)]

def Keyword.json (k : Keyword) : Json :=
  .object [("name", .text k.name), ("argument", .ofOption Argument.json k.argument)]

def ReturnType.json (r : ReturnType) : Json :=
  .object [("type_", .ofOption TypeRef.json r.type),
    ("modifiers", .ofList Modifier.json r.modifiers)]

def Method.json (m : Method) : Json :=
  .object [("comments", .texts m.comments), ("compiler_attributes", .texts m.compilerAttributes),
    ("keywords", .ofList Keyword.json m.keywords), ("return_type", m.returnType.json),
    ("code", .texts m.code)]

def BlockParameter.json (p : BlockParameter) : Json :=
  .object [("name", .text p.name), ("type_", p.type.json),
    ("nullability", .ofOption Modifier.json p.nullability)]

def BlockType.json (b : BlockType) : Json :=
  .object [("comments", .texts b.comments), ("name", .text b.name),
    ("parameters", .ofList BlockParameter.json b.parameters), ("return_type", b.returnType.json),
    ("is_public", .bool b.isPublic)]

def Access.label : Access → String
  | internal => "Private"
  | external => "Public"

def InstanceVariable.json (v : InstanceVariable) : Json :=
  .object [("name", .text v.name), ("return_type", v.type.json), ("access", .text v.access.label)]

def PropertyModifier.label : PropertyModifier → String
  | nonatomic => "Nonatomic"
  | readonly => "Readonly"
  | copy => "Copy"
  | strong => "Strong"
  | assign => "Assign"
  | nonnull => "Nonnull"
  | nullable => "Nullable"
  | nullUnspecified => "NullUnspecified"

def Property.json (p : Property) : Json :=
  .object [("comments", .texts p.comments), ("name", .text p.name), ("return_type", p.type.json),
    ("modifiers", .ofList (fun m => .text m.label) p.modifiers), ("access", .text p.access.label)]

def Macro.json (m : Macro) : Json :=
  .object [("name", .text m.name), ("value", .text m.value)]

def Constant.json (c : Constant) : Json :=
  .object [("comments", .texts c.comments), ("type_", c.type.json), ("name", .text c.name),
    ("value", .text c.value)]

def PointerRegion.label : PointerRegion → String
  | unmarked => "Default"
  | assumedNonnull => "AssumeNonnull"

def ClassModel.json (c : ClassModel) : Json :=
  .object [("name", .text c.name), ("base_class_name", .text c.baseClassName),
    ("covariant_types", .texts c.covariantTypes),
    ("implemented_protocols", .texts c.implementedProtocols),
    ("class_methods", .ofList Method.json c.classMethods),
    ("instance_methods", .ofList Method.json c.instanceMethods),
    ("properties", .ofList Property.json c.properties),
    ("instance_variables", .ofList InstanceVariable.json c.instanceVariables),
    ("nullability", .text c.pointers.label),
    ("subclassing_restricted", .bool c.subclassingRestricted)]

def File.json (f : File) : Json :=
  .object [("name", .text f.name), ("comments", .texts f.comments),
    ("imports", .ofList Import.json f.imports),
    ("forward_declarations", .ofList ForwardDeclaration.json f.forwardDeclarations),
    ("enumerations", .ofList Enumeration.json f.enumerations),
    ("block_types", .ofList BlockType.json f.blockTypes),
    ("static_constants", .ofList Constant.json f.staticConstants),
    ("macros", .ofList Macro.json f.macros), ("classes", .ofList ClassModel.json f.classes)]

end ValueTypes.Objc
