import ValueTypes.Feature.CaseTest
import ValueTypes.Feature.Factory
import ValueTypes.Feature.Initializer
import ValueTypes.Feature.Matcher

/-! The lines of generated bodies, for each kind of body a function of the names that stand in it. What
is stated elsewhere about a body is stated about its lines. -/

namespace ValueTypes

namespace Objc

def callText (block : String) (arguments : List String) : String :=
  block ++ "(" ++ String.intercalate ", " arguments ++ ")"

structure Arm where
  label : String
  handler : String
  values : List String

/-- Under its label the handler is called with the values if it is given. -/
def Arm.lines (target : String) (arm : Arm) : List String :=
  ["  case " ++ arm.label ++ ": \x7b",
    "    if (" ++ arm.handler ++ ") \x7b",
    "      " ++ target ++ callText arm.handler arm.values ++ ";",
    "    \x7d",
    "    break;",
    "  \x7d"]

def switchLines (subject target : String) (arms : List Arm) : List String :=
  ["switch (" ++ subject ++ ") \x7b"] ++ arms.flatMap (Arm.lines target) ++ ["\x7d"]

def matchLines (subject : String) (result : Option (String × String)) (arms : List Arm) :
    List String :=
  match result with
  | none => switchLines subject "" arms
  | some (type, value) =>
    [type ++ " result = " ++ value ++ ";"] ++ switchLines subject "result = " arms ++
      ["return result;"]

structure Store where
  place : String
  value : String

def factoryLines (typeName subject label : String) (stores : List Store) : List String :=
  [typeName ++ " *object = [(id)self new];", "object->" ++ subject ++ " = " ++ label ++ ";"] ++
    stores.map (fun w => "object->" ++ w.place ++ " = " ++ w.value ++ ";") ++ ["return object;"]

def Store.behindPointer (w : Store) : List String :=
  ["if (" ++ w.place ++ ") \x7b", "  *" ++ w.place ++ " = " ++ w.value ++ ";", "\x7d"]

def testLines (subject label : String) : List Store → List String
  | [] => ["return " ++ subject ++ " == " ++ label ++ ";"]
  | w :: stores =>
    ["if (" ++ subject ++ " != " ++ label ++ ") \x7b", "  return NO;", "\x7d"] ++
      (w :: stores).flatMap Store.behindPointer ++ ["return YES;"]

def initializerLines (stores : List Store) : List String :=
  ["if ((self = [super init])) \x7b"] ++
    stores.map (fun w => "  " ++ w.place ++ " = " ++ w.value ++ ";") ++ ["\x7d", "", "return self;"]

/-- A parameter of a block, with its nullability where the type of the parameter `shows` it. -/
def BlockParameter.text (shows : TypeRef → Bool) (p : BlockParameter) : String :=
  p.type.stem ++
    (if shows p.type then (p.nullability.bind Modifier.qualifier?).elim "" (· ++ " ") else "") ++
    p.name

structure Forwarding where
  keyword : String
  parameters : List BlockParameter
  handler : String

def Forwarding.lines (shows : TypeRef → Bool) (f : Forwarding) : List String :=
  ["  " ++ f.keyword ++ ":^(" ++ String.intercalate ", " (f.parameters.map (·.text shows)) ++ ") \x7b",
    "    if (" ++ f.handler ++ ") \x7b",
    "      result = " ++ callText f.handler (f.parameters.map (·.name)) ++ ";",
    "    \x7d",
    "  \x7d"]

def matcherLines (shows : TypeRef → Bool) (subject : String) (forwardings : List Forwarding) :
    List String :=
  ["__block id result = nil;", "[" ++ subject] ++ forwardings.flatMap (Forwarding.lines shows) ++
    ["];", "return result;"]

theorem indent_zero (line : String) : indent 0 line = line := String.empty_append

theorem indent_one (line : String) : indent 1 line = "  " ++ line := rfl

theorem indent_two (line : String) : indent 2 line = "    " ++ line := rfl

theorem indent_three (line : String) : indent 3 line = "      " ++ line := rfl

theorem lines_guarded_zero (condition : Expr) (a : Action) :
    Guarded.lines ⟨condition, [a]⟩ 0 =
      ["if (" ++ condition.text ++ ") \x7b", "  " ++ a.text, "\x7d"] := by
  rw [Guarded.lines, indent_zero, indent_zero, List.map_singleton, indent_one]
  rfl

theorem lines_guarded_two (condition : Expr) (a : Action) : Guarded.lines ⟨condition, [a]⟩ 2 =
    ["    if (" ++ condition.text ++ ") \x7b", "      " ++ a.text, "    \x7d"] := by
  rw [Guarded.lines, indent_two, indent_two, List.map_singleton, indent_three]
  simp only [List.cons_append, List.nil_append, ← String.append_assoc, String.reduceAppend]

theorem lines_branch (label : String) (body : Guarded) : Branch.lines ⟨label, body⟩ =
    ["  case " ++ label ++ ": \x7b"] ++ body.lines 2 ++ ["    break;", "  \x7d"] := by
  rw [Branch.lines, indent_one, indent_one, indent_two]
  simp only [List.cons_append, List.nil_append, ← String.append_assoc, String.reduceAppend]

theorem declareQualified_eq_text (p : BlockParameter) :
    p.type.declareQualified p.name p.nullability = p.text TypeRef.isObject := by
  unfold TypeRef.declareQualified BlockParameter.text TypeRef.declare
  cases p.nullability.bind Modifier.qualifier? with
  | none => simp
  | some qualifier => by_cases h : p.type.isObject = true <;> simp [h, String.append_assoc]

theorem lines_blockPart (part : BlockPart) : part.lines =
    ["  " ++ part.keyword ++ ":^(" ++
      String.intercalate ", " (part.parameters.map (·.text TypeRef.isObject)) ++ ") \x7b"] ++
      part.body.lines 2 ++ ["  \x7d"] := by
  rw [BlockPart.lines, indent_one, indent_one]
  simp only [declareQualified_eq_text, List.cons_append, List.nil_append, ← String.append_assoc,
    String.reduceAppend]

end Objc

open Objc

theorem AttributeType.isCopied_iff {t : AttributeType} : t.isCopied = true ↔
    t.isObject = true ∧ (builtin? t.name).map (·.kind) = some (.classType true) := by
  simp [isCopied]

theorem Attribute.text_stored (a : Attribute) (var : String) : (a.stored var).text =
    if a.type.isCopied then "[" ++ var ++ " copy]" else var := by
  unfold stored
  split <;> rfl

def Attribute.store (a : Attribute) : Store := ⟨"_" ++ a.name, (a.stored a.name).text⟩

namespace Case

def arm (c : Case) (typeName : String) : Arm := ⟨c.discriminantValue typeName, c.handler, c.slots⟩

def stores (c : Case) : List Store := c.attributes.map fun a => ⟨c.slot a, (a.stored a.name).text⟩

def outStores (c : Case) : List Store := c.attributes.map fun a => ⟨a.name, c.slot a⟩

def forwarding (c : Case) (keyword : String) : Forwarding := ⟨keyword, c.handlerParameters, c.handler⟩

theorem lines_matchBranch (c : Case) (typeName : String) (r : MatchResult) :
    (c.matchBranch typeName r).lines =
      (c.arm typeName).lines (if r.typeAndDefault? = none then "" else "result = ") := by
  rw [matchBranch, lines_branch, lines_guarded_two]
  -- Without a result the handler is just called, and nothing stands in front of the call.
  cases r.typeAndDefault? <;>
    simp [Action.text, Expr.text, Arm.lines, arm, callText, ← String.append_assoc]

theorem lines_forwardingPart (c : Case) (keyword : String) :
    (c.forwardingPart keyword).lines = (c.forwarding keyword).lines TypeRef.isObject := by
  have hnames : c.attributes.map (·.name) = c.handlerParameters.map (·.name) := by
    rw [handlerParameters, List.map_map]
    rfl
  rw [lines_blockPart, forwardingPart, lines_guarded_two, hnames]
  simp [Action.text, Expr.text, Forwarding.lines, forwarding, callText, ← String.append_assoc]

theorem code_factory (c : Case) (typeName : String) : (c.factory typeName).code =
    factoryLines typeName discriminant (c.discriminantValue typeName) c.stores := by
  have hstores : (c.attributes.map fun a =>
      Statement.act (.assign (.field "object" (c.slot a)) (a.stored a.name))).flatMap
        Statement.lines = c.stores.map fun w => "object->" ++ w.place ++ " = " ++ w.value ++ ";" := by
    rw [List.flatMap_map, stores, List.map_map, List.map_eq_flatMap]
    rfl
  have hmade : typeName ++ " *" ++ "object" ++ " = " ++ "[(id)self new]" ++ ";" =
      typeName ++ " *object = [(id)self new];" := by
    simp only [String.append_assoc, String.reduceAppend]
  rw [Method.code, factory, factoryBody, List.flatMap_append, List.flatMap_append, hstores,
    factoryLines, ← hmade]
  rfl

theorem code_testMethod (c : Case) (typeName : String) (qualified assumed : Bool) :
    (c.testMethod typeName qualified assumed).code =
      testLines discriminant (c.discriminantValue typeName) c.outStores := by
  have hstore : ∀ a : Attribute, (Statement.guarded
      ⟨.atom a.name, [.assign (.pointee a.name) (.atom (c.slot a))]⟩).lines =
        Store.behindPointer ⟨a.name, c.slot a⟩ := by
    intro a
    rw [Statement.lines, lines_guarded_zero]
    simp [Action.text, Expr.text, Store.behindPointer, ← String.append_assoc]
  have hguard : (Statement.guarded ⟨.differs discriminant (c.discriminantValue typeName),
      [.answer (.atom "NO")]⟩).lines = ["if (" ++ discriminant ++ " != " ++
        c.discriminantValue typeName ++ ") \x7b", "  return NO;", "\x7d"] := by
    rw [Statement.lines, lines_guarded_zero]
    simp [Action.text, Expr.text, ← String.append_assoc]
  unfold Method.code testMethod testBody outStores
  cases c.attributes with
  | nil => rfl
  | cons a others =>
    have hstores : ((a :: others).map fun b => Statement.guarded
        ⟨.atom b.name, [.assign (.pointee b.name) (.atom (c.slot b))]⟩).flatMap Statement.lines =
          ((a :: others).map fun b => (⟨b.name, c.slot b⟩ : Store)).flatMap Store.behindPointer := by
      rw [List.flatMap_map, List.flatMap_map, funext hstore]
    rw [List.flatMap_append, List.flatMap_append, List.flatMap_singleton, hguard, hstores]
    rfl

end Case

theorem code_initializer (first : Attribute) (others : List Attribute) :
    (initializer first others).code = initializerLines ((first :: others).map Attribute.store) := by
  simp [Method.code, initializer, initializerBody, initializerLines, Statement.lines, Guarded.lines,
    Action.text, Expr.text, indent_zero, indent_one, Attribute.store, Function.comp_def,
    ← String.append_assoc]

namespace AlgebraicType

theorem code_matchMethod (d : AlgebraicType) (r : MatchResult) : (d.matchMethod r).code =
    matchLines discriminant r.typeAndDefault? (d.members.map (·.arm d.name)) := by
  have hlines : (fun c : Case => (c.matchBranch d.name r).lines) = fun c => (c.arm d.name).lines
      (if r.typeAndDefault? = none then "" else "result = ") := funext fun c =>
    c.lines_matchBranch d.name r
  have hdeclared : ∀ type : String, type ++ " " ++ "result" ++ " = " = type ++ " result = " := by
    intro type
    simp only [String.append_assoc, String.reduceAppend]
  unfold Method.code matchMethod matchBody matchLines switchLines
  cases h : r.typeAndDefault? <;>
    simp [Statement.lines, Action.text, Expr.text, List.flatMap_map, hlines, h, hdeclared]

def forwardings (d : AlgebraicType) : List Forwarding :=
  List.zipWith (fun keyword c => c.forwarding keyword) (d.matchParts .void) d.members

theorem code_matcherMethod (d : AlgebraicType) : d.matcherMethod.code =
    matcherLines TypeRef.isObject (matchSubject d.name) d.forwardings := by
  have hparts : (List.zipWith (fun keyword c => c.forwardingPart keyword) (d.matchParts .void)
      d.members).flatMap BlockPart.lines =
        d.forwardings.flatMap (Forwarding.lines TypeRef.isObject) := by
    rw [List.flatMap_def, List.flatMap_def, forwardings, List.map_zipWith, List.map_zipWith]
    simp only [Case.lines_forwardingPart]
  simp [Method.code, matcherMethod, matcherBody, matcherLines, Statement.lines, hparts, Action.text,
    Expr.text]

end AlgebraicType

end ValueTypes
