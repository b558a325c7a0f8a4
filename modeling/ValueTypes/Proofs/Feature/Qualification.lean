import ValueTypes.Proofs.Feature.Arguments
import ValueTypes.Proofs.Feature.ClosedForm

/-! All features agree on whether pointers are qualified. One attribute that states whether it may be
null, or the tag for a region without null pointers, qualifies the declarations of all generated
files; otherwise no declaration of any of them is qualified. -/

namespace ValueTypes

namespace Objc

def Modifier.isNullability (m : Modifier) : Bool := m.qualifier?.isSome

def parameterModifiers (parameters : List BlockParameter) : List Modifier :=
  parameters.filterMap (·.nullability)

def BlockType.modifiers (b : BlockType) : List Modifier :=
  parameterModifiers b.parameters ++ b.returnType.modifiers

def Method.modifiers (m : Method) : List Modifier :=
  m.arguments.flatMap (·.modifiers) ++ m.returnType.modifiers ++
    parameterModifiers m.parameters

def File.modifiers (f : File) : List Modifier :=
  f.blockTypes.flatMap BlockType.modifiers ++
    f.classes.flatMap fun c => (c.classMethods ++ c.instanceMethods).flatMap Method.modifiers

end Objc

open Objc

def Attribute.pointeeQualifier (a : Attribute) (assumed : Prop) [Decidable assumed] : String :=
  (a.nullability.modifier?.bind Modifier.qualifier?).getD
    (if assumed then "_Nonnull" else "_Null_unspecified")

def Attribute.outSpelling (a : Attribute) (explicit assumed : Prop) [Decidable explicit]
    [Decidable assumed] : String :=
  if explicit then
    if a.type.isObject then a.type.reference ++ " " ++ a.pointeeQualifier assumed ++ " *_Nullable"
    else a.type.reference ++ " *_Nullable"
  else if a.type.isObject then a.type.reference ++ "*" else a.type.reference ++ " *"

namespace AlgebraicType

/-- Pointers are qualified: the tag is in force, or an attribute states whether it may be null. -/
def Explicit (d : AlgebraicType) (tags : List Tag) : Prop :=
  assumeNonnullTag ∈ tags ∨ ∃ a ∈ d.attributes, a.nullability ≠ .inherited

instance (d : AlgebraicType) (tags : List Tag) : Decidable (d.Explicit tags) :=
  inferInstanceAs (Decidable (_ ∨ _))

def HandlersQualified (explicit : Prop) [Decidable explicit] (count : Nat) (handlers : List Argument) :
    Prop :=
  handlers.map (·.modifiers) =
    List.replicate count (if explicit then [.noEscape, .nullable] else [.noEscape])

structure MatcherQualified (explicit : Prop) [Decidable explicit] (typeName : String) (count : Nat)
    (m : Method) (matched : Argument) (handlers : List Argument) : Prop where
  arguments : m.arguments = matched :: handlers
  type : matched.type.name = typeName
  matched : matched.modifiers = if explicit then [.nonnull] else []
  handlers : HandlersQualified explicit count handlers
  result : m.returnType.modifiers = if explicit then [.nullable] else []

structure QualifiedAlike (d : AlgebraicType) (tags : List Tag) (main : File) (cls : ClassModel)
    (extra : List File) : Prop where
  kinds : ∀ m ∈ cls.instanceMethods, m.begins "match" ∨ m.begins "is"
  matching : ∀ m ∈ cls.instanceMethods, m.begins "match" →
    HandlersQualified (d.Explicit tags) d.members.length m.arguments
  tests : List.Forall₂ (fun c m => m.arguments = c.attributes.map fun a =>
      ⟨a.name, [], ⟨a.type.name, a.outSpelling (d.Explicit tags) (assumeNonnullTag ∈ tags)⟩⟩)
    (if "RMCaseMatching" ∈ tags then d.members else []) (cls.instanceMethods.filter (·.begins "is"))
  matchers : ∀ file ∈ extra, ∃ c m matched handlers, file.classes = [c] ∧ c.classMethods = [m] ∧
    c.instanceMethods = [] ∧
      MatcherQualified (d.Explicit tags) d.name d.members.length m matched handlers
  plain : ¬ d.Explicit tags → ∀ file ∈ main :: extra,
    (∀ x ∈ file.modifiers, x.isNullability = false) ∧ ∀ c ∈ file.classes, c.pointers = .unmarked

end AlgebraicType

/-! ### Case tests -/

theorem Attribute.outType_eq (a : Attribute) {explicit assumed : Prop} [Decidable explicit]
    [Decidable assumed] :
    a.outType (decide explicit) (decide assumed) = ⟨a.type.name, a.outSpelling explicit assumed⟩ := by
  have hqualifier : a.nullability.valueQualifier (decide assumed) = a.pointeeQualifier assumed := by
    unfold pointeeQualifier
    cases a.nullability <;> simp [Nullability.valueQualifier, Nullability.modifier?, Modifier.qualifier?]
  unfold outType outSpelling
  rw [hqualifier]
  by_cases hexplicit : explicit <;> cases hobject : a.type.isObject <;>
    simp [hexplicit, String.append_assoc]

namespace AlgebraicType

variable {d : AlgebraicType}

theorem qualifies_eq (d : AlgebraicType) : d.qualifies = decide (d.Explicit d.includes) := by
  rw [Bool.eq_iff_iff, decide_eq_true_iff]
  simp [qualifies, ValueTypes.qualifies, nonnullByDefault, Explicit]

theorem nonnullByDefault_eq (tags : List Tag) :
    nonnullByDefault tags = decide (assumeNonnullTag ∈ tags) := by
  simp [nonnullByDefault]

/-! ### Match methods -/

theorem handlersQualified (d : AlgebraicType) (type : Case → String) :
    HandlersQualified (d.Explicit d.includes) d.members.length
      (d.members.map fun c => c.handlerArgument d.handlerModifiers (type c)) := by
  have hmodifiers : d.handlerModifiers =
      if d.Explicit d.includes then [.noEscape, .nullable] else [.noEscape] := by
    simp [handlerModifiers, qualifies_eq]
  rw [HandlersQualified, ← hmodifiers, List.map_map]
  exact List.map_const' ..

theorem matcherQualified (d : AlgebraicType) : ∃ matched handlers,
    MatcherQualified (d.Explicit d.includes) d.name d.members.length d.matcherMethod matched handlers := by
  refine ⟨_, _, arguments_matcherMethod d, rfl, ?_, handlersQualified d _, ?_⟩
  · simp [qualifies_eq]
  · simp [matcherMethod, qualifies_eq]

theorem filter_begins_is (d : AlgebraicType) :
    d.total.instanceMethods.filter (·.begins "is") =
      if "RMCaseMatching" ∈ d.includes then
        d.members.map fun c => c.testMethod d.name d.qualifies (nonnullByDefault d.includes)
      else [] := by
  rw [total_instanceMethods, List.filter_append, List.filter_eq_nil_iff.mpr, List.nil_append,
    List.filter_eq_self.mpr]
  · intro m hm
    split at hm
    · obtain ⟨c, -, rfl⟩ := List.mem_map.mp hm
      exact (c.begins_testMethod ..).1
    · cases hm
  · intro m hm
    obtain ⟨r, hr, rfl⟩ := List.mem_map.mp hm
    simp [(begins_matchMethod (members_ne_nil_of_mem_matchResults hr)).2]

/-! ### Unqualified files -/

theorem modifier?_eq_none {tags : List Tag} (h : ¬ d.Explicit tags) {a : Attribute}
    (ha : a ∈ d.attributes) : a.nullability.modifier? = none := by
  have hinherited : a.nullability = .inherited := by
    by_contra hne
    exact h (.inr ⟨a, ha, hne⟩)
  rw [hinherited]
  rfl

theorem mem_attributes {c : Case} (hc : c ∈ d.members) {a : Attribute} (ha : a ∈ c.attributes) :
    a ∈ d.attributes := List.mem_flatMap.mpr ⟨c, hc, ha⟩

theorem parameterModifiers_eq_nil {tags : List Tag} (h : ¬ d.Explicit tags) {cs : List Case}
    (hcs : cs ⊆ d.members) : parameterModifiers (cs.flatMap Case.handlerParameters) = [] := by
  rw [parameterModifiers, List.filterMap_eq_nil_iff]
  intro parameter hparameter
  obtain ⟨c, hc, hparameter⟩ := List.mem_flatMap.mp hparameter
  obtain ⟨a, ha, rfl⟩ := List.mem_map.mp hparameter
  exact modifier?_eq_none h (mem_attributes (hcs hc) ha)

theorem modifiers_blockType {tags : List Tag} (h : ¬ d.Explicit tags) {c : Case} (hc : c ∈ d.members)
    (name : String) {result : ReturnType} (hresult : result.modifiers = []) :
    (c.blockType name result).modifiers = [] := by
  have hsubset : [c] ⊆ d.members := by simpa using hc
  have hparameters := parameterModifiers_eq_nil h hsubset
  rw [List.flatMap_singleton] at hparameters
  rw [BlockType.modifiers, Case.blockType, hparameters, hresult, List.append_nil]

theorem modifiers_factory {tags : List Tag} (h : ¬ d.Explicit tags) {c : Case} (hc : c ∈ d.members)
    (typeName : String) : (c.factory typeName).modifiers = [] := by
  have harguments : (c.attributes.map Attribute.argument).flatMap (·.modifiers) = [] := by
    rw [List.flatMap_map, List.flatMap_eq_nil_iff]
    intro a ha
    simp [Attribute.argument, Attribute.modifiers, modifier?_eq_none h (mem_attributes hc ha)]
  rw [Method.modifiers, c.arguments_factory, harguments, c.parameters_factory]
  rfl

theorem modifiers_testMethod (c : Case) (typeName : String) (qualified assumed : Bool) :
    (c.testMethod typeName qualified assumed).modifiers = [] := by
  rw [Method.modifiers, c.arguments_testMethod, c.parameters_testMethod]
  simp [parameterModifiers, Case.testMethod, ReturnType.of]

theorem handler_plain (h : ¬ d.Explicit d.includes) (type : Case → String) :
    ∀ x ∈ (d.members.map fun c => c.handlerArgument d.handlerModifiers (type c)).flatMap (·.modifiers),
      x.isNullability = false := by
  intro x hx
  obtain ⟨argument, hargument, hx⟩ := List.mem_flatMap.mp hx
  obtain ⟨c, -, rfl⟩ := List.mem_map.mp hargument
  have hmodifiers : d.handlerModifiers = [.noEscape] := by simp [handlerModifiers, qualifies_eq, h]
  rw [Case.handlerArgument, hmodifiers, List.mem_singleton] at hx
  rw [hx]
  rfl

theorem matchMethod_plain (h : ¬ d.Explicit d.includes) (r : MatchResult) :
    ∀ x ∈ (d.matchMethod r).modifiers, x.isNullability = false := by
  have hresult : (d.matchMethod r).returnType.modifiers = [] := by cases r <;> rfl
  rw [Method.modifiers, arguments_matchMethod, hresult, parameters_matchMethod]
  simpa [parameterModifiers] using handler_plain h _

theorem matcherMethod_plain (h : ¬ d.Explicit d.includes) :
    ∀ x ∈ d.matcherMethod.modifiers, x.isNullability = false := by
  have hqualifies : d.qualifies = false := by simp [qualifies_eq, h]
  have hresult : d.matcherMethod.returnType.modifiers = [] := by simp [matcherMethod, hqualifies]
  rw [Method.modifiers, arguments_matcherMethod, List.flatMap_cons, hqualifies, hresult,
    parameters_matcherMethod, parameterModifiers_eq_nil h (List.Subset.refl _)]
  simpa using handler_plain h _

theorem pointers_eq_none (h : assumeNonnullTag ∉ d.includes) : d.total.pointers = none := by
  rw [total, pointers_contributions, List.findSome?_eq_none_iff]
  intro f hf
  obtain ⟨r, rfl⟩ | hrest := mem_features.mp (List.mem_filter.mp hf).1
  · rfl
  · have hall : ∀ f ∈ [storageFeature, factoryFeature, caseTestFeature, matcherFeature],
        (f.contribution d).pointers = none := by
      simp [storageFeature, factoryFeature, caseTestFeature, matcherFeature, nonnullByDefault, h]
    exact hall f hrest

/-! ### All files -/

theorem mainFile_plain (h : ¬ d.Explicit d.includes) :
    ∀ x ∈ (d.total.mainFile d.name).modifiers, x.isNullability = false := by
  have hblocks : d.total.blockTypes.flatMap BlockType.modifiers = [] := by
    rw [List.flatMap_eq_nil_iff]
    intro b hb
    obtain ⟨r, -, c, hc, rfl⟩ := mem_total_blockTypes.mp hb
    exact modifiers_blockType h hc _ (by cases r <;> rfl)
  have hclass : ∀ m ∈ d.total.classMethods, m.modifiers = [] := by
    rw [total_classMethods]
    intro m hm
    obtain ⟨c, hc, rfl⟩ := List.mem_map.mp hm
    exact modifiers_factory h hc _
  have hinstance : ∀ m ∈ d.total.instanceMethods, ∀ x ∈ m.modifiers, x.isNullability = false := by
    intro m hm
    obtain ⟨r, -, rfl⟩ | ⟨c, -, -, rfl⟩ := mem_total_instanceMethods.mp hm
    · exact matchMethod_plain h r
    · simp [modifiers_testMethod]
  intro x hx
  rw [File.modifiers, Contribution.mainFile, hblocks, List.nil_append, List.flatMap_singleton] at hx
  obtain ⟨m, hm, hx⟩ := List.mem_flatMap.mp hx
  obtain hm | hm := List.mem_append.mp hm
  · rw [hclass m hm] at hx
    cases hx
  · exact hinstance m hm x hx

theorem matcherFile_plain (h : ¬ d.Explicit d.includes) :
    ∀ x ∈ d.matcherFile.modifiers, x.isNullability = false := by
  have hblocks : d.matcherFile.blockTypes.flatMap BlockType.modifiers = [] := by
    rw [List.flatMap_eq_nil_iff]
    intro b hb
    obtain ⟨c, hc, rfl⟩ := List.mem_map.mp hb
    exact modifiers_blockType h hc _ rfl
  rw [File.modifiers, hblocks]
  simpa [matcherFile] using matcherMethod_plain h

theorem qualifiedAlike (d : AlgebraicType) :
    QualifiedAlike d d.includes (d.total.mainFile d.name) (d.total.mainClass d.name)
      d.total.additionalFiles where
  kinds := by
    intro m hm
    obtain ⟨r, hr, rfl⟩ | ⟨c, -, -, rfl⟩ := mem_total_instanceMethods.mp hm
    · exact .inl (begins_matchMethod (members_ne_nil_of_mem_matchResults hr)).1
    · exact .inr (c.begins_testMethod ..).1
  matching := by
    intro m hm hbegins
    obtain ⟨r, hr, rfl⟩ | ⟨c, -, -, rfl⟩ := mem_total_instanceMethods.mp hm
    · rw [arguments_matchMethod]
      exact handlersQualified d _
    · simp [c.begins_testMethod] at hbegins
  tests := by
    rw [Contribution.mainClass, filter_begins_is]
    split
    · rw [List.forall₂_map_right_iff, List.forall₂_same]
      intro c hc
      simp only [c.arguments_testMethod, qualifies_eq, nonnullByDefault_eq, Attribute.outType_eq]
    · exact .nil
  matchers := by
    intro file hfile
    obtain rfl := eq_matcherFile_of_mem hfile
    obtain ⟨matched, handlers, hmatcher⟩ := matcherQualified d
    exact ⟨_, _, matched, handlers, rfl, rfl, rfl, hmatcher⟩
  plain := by
    intro h file hfile
    obtain rfl | hfile := List.mem_cons.mp hfile
    · refine ⟨mainFile_plain h, fun c hc => ?_⟩
      obtain rfl := List.mem_singleton.mp hc
      rw [Contribution.mainClass, pointers_eq_none fun htag => h (.inl htag)]
      rfl
    · obtain rfl := eq_matcherFile_of_mem hfile
      refine ⟨matcherFile_plain h, fun c hc => ?_⟩
      obtain rfl := List.mem_singleton.mp hc
      rfl

theorem exists_qualifiedAlike {settings : Settings} {files : List File}
    (h : generate settings d = .ok files) : ∃ main cls extra, files = main :: extra ∧
      main.classes = [cls] ∧
      QualifiedAlike d (tagsInForce defaultTags settings d.includes d.excludes) main cls extra := by
  obtain ⟨-, rfl⟩ := (generate_eq_ok rfl).mp h
  have halike := qualifiedAlike (d.withTagsInForce defaultTags settings)
  exact ⟨_, _, _, rfl, rfl, { halike with }⟩

theorem exists_qualifiedAlike_event : ∃ main cls matcher,
    generate genericSettings event = .ok [main, matcher] ∧ main.classes = [cls] ∧
      event.Explicit (tagsInForce defaultTags genericSettings event.includes event.excludes) ∧
      QualifiedAlike event (tagsInForce defaultTags genericSettings event.includes event.excludes)
        main cls [matcher] := by
  have h : ∃ files, generate genericSettings event = .ok files :=
    ⟨_, (generate_eq_ok rfl).mpr ⟨by decide, rfl⟩⟩
  obtain ⟨files, hfiles⟩ := h
  obtain ⟨main, cls, extra, rfl, hcls, halike⟩ := exists_qualifiedAlike hfiles
  have hextra : extra = [matcherFile (event.withTagsInForce defaultTags genericSettings)] := by
    obtain ⟨-, hall⟩ := (generate_eq_ok rfl).mp hfiles
    rw [(List.cons.inj hall).2, total_additionalFiles, if_pos (by decide)]
  exact ⟨main, cls, _, hextra ▸ hfiles, hcls, by decide, hextra ▸ halike⟩

end AlgebraicType

end ValueTypes
