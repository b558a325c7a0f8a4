import Mathlib.Data.List.Basic
import ValueTypes.Proofs.Feature.Sum

/-! What features read of a declaration. They look neither at directives nor at excluded tags, and of
the tags in force at two only, to see whether these are there. So a declaration can be cut down to what
is read of it without any change in the generated files. -/

namespace ValueTypes

open Objc

/-! ### What is read -/

def Attribute.withoutDirectives (a : Attribute) : Attribute := { a with directives := ∅ }

def Case.withoutDirectives : Case → Case
  | .collection name comments attributes =>
    .collection name comments (attributes.map Attribute.withoutDirectives)
  | .single payload => .single payload.withoutDirectives

def consultedTags : List Tag := [assumeNonnullTag, forwardTag]

section

variable {Member : Type} {strip : Member → Member} {d e : Declaration Member}

structure Declaration.Alike (strip : Member → Member) (d e : Declaration Member) : Prop where
  name : d.name = e.name
  comments : d.comments = e.comments
  libraryName : d.libraryName = e.libraryName
  typeHints : d.typeHints = e.typeHints
  members : d.members.map strip = e.members.map strip

def Declaration.seen (strip : Member → Member) (d : Declaration Member) : Declaration Member :=
  { d with
    directives := ∅
    includes := consultedTags.filter (· ∈ d.includes)
    excludes := []
    members := d.members.map strip }

theorem Declaration.Alike.seen_eq (h : d.Alike strip e)
    (htags : ∀ tag ∈ consultedTags, (tag ∈ d.includes ↔ tag ∈ e.includes)) :
    d.seen strip = e.seen strip := by
  have hincludes : consultedTags.filter (· ∈ d.includes) = consultedTags.filter (· ∈ e.includes) := by
    apply List.filter_congr
    intro tag htag
    exact decide_eq_decide.mpr (htags tag htag)
  unfold Declaration.seen
  rw [h.name, h.comments, h.libraryName, h.typeHints, h.members, hincludes]

/-- The feature does the same for a declaration that is cut down to what is read of it. -/
structure Feature.ReadsSeen (strip : Member → Member) (f : Feature Member) : Prop where
  problems : ∀ d, f.problems (d.seen strip) = f.problems d
  contribution : ∀ d, f.contribution (d.seen strip) = f.contribution d
  rework : ∀ d file, f.rework (d.seen strip) file = f.rework d file

namespace Feature

variable {f : Feature Member}

theorem ReadsSeen.problems_eq (h : f.ReadsSeen strip) (hseen : d.seen strip = e.seen strip) :
    f.problems d = f.problems e := by
  rw [← h.problems d, hseen, h.problems e]

theorem ReadsSeen.contribution_eq (h : f.ReadsSeen strip) (hseen : d.seen strip = e.seen strip) :
    f.contribution d = f.contribution e := by
  rw [← h.contribution d, hseen, h.contribution e]

theorem ReadsSeen.rework_eq (h : f.ReadsSeen strip) (hseen : d.seen strip = e.seen strip)
    (file : File) : f.rework d file = f.rework e file := by
  rw [← h.rework d, hseen, h.rework e]

theorem takesPart_congr {tags tags' : List Tag} (h : ∀ tag, tag ∈ tags ↔ tag ∈ tags')
    (f : Feature Member) : f.takesPart tags = f.takesPart tags' := by
  apply Bool.eq_iff_iff.mpr
  simp [takesPart, h]

end Feature

/-! ### The sum of the features -/

variable {features : List (Feature Member)}

theorem contributions_congr (h : ∀ f ∈ features, f.contribution d = f.contribution e) :
    contributions features d = contributions features e := by
  apply List.foldl_ext
  intro total f hf
  rw [h f hf]

theorem reworked_congr (h : ∀ f ∈ features, ∀ file, f.rework d file = f.rework e file) :
    reworked features d = reworked features e := by
  funext file
  apply List.foldl_ext
  intro file f hf
  exact h f hf file

theorem generateWith_congr {defaults : List Tag} {settings settings' : Settings}
    (hfeatures : ∀ f ∈ features, f.ReadsSeen strip) (h : d.Alike strip e)
    (htags : ∀ tag, tag ∈ tagsInForce defaults settings d.includes d.excludes ↔
      tag ∈ tagsInForce defaults settings' e.includes e.excludes) :
    generateWith defaults features settings d = generateWith defaults features settings' e := by
  have hname : (d.withTagsInForce defaults settings).name =
      (e.withTagsInForce defaults settings').name := h.name
  have hseen : (d.withTagsInForce defaults settings).seen strip =
      (e.withTagsInForce defaults settings').seen strip :=
    Declaration.Alike.seen_eq { h with } fun tag _ => htags tag
  have hactive : features.filter (·.takesPart (d.withTagsInForce defaults settings).includes) =
      features.filter (·.takesPart (e.withTagsInForce defaults settings').includes) :=
    List.filter_congr fun f _ => Feature.takesPart_congr htags f
  rw [generateWith, generateWith, hactive, hname]
  have hreads : ∀ f ∈ features.filter (·.takesPart (e.withTagsInForce defaults settings').includes),
      f.ReadsSeen strip := fun f hf => hfeatures f (List.mem_filter.mp hf).1
  generalize features.filter (·.takesPart (e.withTagsInForce defaults settings').includes) = active
    at hreads
  rw [List.flatMap_congr fun f hf => (hreads f hf).problems_eq hseen,
    contributions_congr fun f hf => (hreads f hf).contribution_eq hseen,
    reworked_congr fun f hf => (hreads f hf).rework_eq hseen]

end

/-! ### Tags -/

theorem contains_consulted {tag : Tag} (htag : tag ∈ consultedTags) (tags : List Tag) :
    (consultedTags.filter (· ∈ tags)).contains tag = tags.contains tag := by
  apply Bool.eq_iff_iff.mpr
  simp [htag]

theorem nonnullByDefault_consulted (tags : List Tag) :
    nonnullByDefault (consultedTags.filter (· ∈ tags)) = nonnullByDefault tags :=
  contains_consulted (by decide) tags

theorem Scope.ofDeclaration_seen {Member : Type} (strip : Member → Member) (d : Declaration Member) :
    Scope.ofDeclaration (d.seen strip) = Scope.ofDeclaration d := by
  have hforward : (consultedTags.filter (· ∈ d.includes)).contains forwardTag =
      d.includes.contains forwardTag := contains_consulted (by decide) d.includes
  simp only [ofDeclaration, make, Declaration.seen, hforward]

/-! ### Attributes and cases -/

namespace Attribute

@[simp] theorem name_withoutDirectives (a : Attribute) : a.withoutDirectives.name = a.name := rfl

@[simp] theorem type_withoutDirectives (a : Attribute) : a.withoutDirectives.type = a.type := rfl

@[simp] theorem nullability_withoutDirectives (a : Attribute) :
    a.withoutDirectives.nullability = a.nullability := rfl

@[simp] theorem argument_withoutDirectives (a : Attribute) :
    a.withoutDirectives.argument = a.argument := rfl

@[simp] theorem stored_withoutDirectives (a : Attribute) (var : String) :
    a.withoutDirectives.stored var = a.stored var := rfl

@[simp] theorem property_withoutDirectives (a : Attribute) :
    a.withoutDirectives.property = a.property := rfl

end Attribute

theorem attributeKeywords_withoutDirectives (first : String) {argument : Attribute → Argument}
    (h : ∀ a, argument a.withoutDirectives = argument a) (as : List Attribute) :
    attributeKeywords first argument (as.map Attribute.withoutDirectives) =
      attributeKeywords first argument as := by
  cases as with
  | nil => rfl
  | cons a others =>
    simp only [List.map_cons, attributeKeywords, List.map_map, Function.comp_def, h,
      Attribute.name_withoutDirectives]

namespace Case

variable (c : Case)

@[simp] theorem name_withoutDirectives : c.withoutDirectives.name = c.name := by
  cases c <;> rfl

@[simp] theorem comments_withoutDirectives : c.withoutDirectives.comments = c.comments := by
  cases c <;> rfl

@[simp] theorem attributes_withoutDirectives :
    c.withoutDirectives.attributes = c.attributes.map Attribute.withoutDirectives := by
  cases c <;> rfl

@[simp] theorem slot_withoutDirectives (a : Attribute) :
    c.withoutDirectives.slot a.withoutDirectives = c.slot a := by
  cases c <;> rfl

@[simp] theorem discriminantValue_withoutDirectives (typeName : String) :
    c.withoutDirectives.discriminantValue typeName = c.discriminantValue typeName := by
  rw [discriminantValue, name_withoutDirectives, discriminantValue]

@[simp] theorem handlerParameters_withoutDirectives :
    c.withoutDirectives.handlerParameters = c.handlerParameters := by
  simp [handlerParameters, Function.comp_def]

@[simp] theorem blockType_withoutDirectives (name : String) (result : ReturnType) :
    c.withoutDirectives.blockType name result = c.blockType name result := by
  simp only [blockType, handlerParameters_withoutDirectives]

@[simp] theorem handlerArgument_withoutDirectives (modifiers : List Modifier) (type : String) :
    c.withoutDirectives.handlerArgument modifiers type = c.handlerArgument modifiers type := by
  simp only [handlerArgument, handler, name_withoutDirectives]

theorem factoryKeywords_withoutDirectives :
    c.withoutDirectives.factoryKeywords = c.factoryKeywords := by
  cases c with
  | single payload => rfl
  | collection name comments as =>
    cases as with
    | nil => rfl
    | cons a others =>
      exact attributeKeywords_withoutDirectives _ Attribute.argument_withoutDirectives (a :: others)

@[simp] theorem factory_withoutDirectives (typeName : String) :
    c.withoutDirectives.factory typeName = c.factory typeName := by
  simp [factory, factoryBody, factoryKeywords_withoutDirectives, Function.comp_def]

@[simp] theorem matchBranch_withoutDirectives (typeName : String) (r : MatchResult) :
    c.withoutDirectives.matchBranch typeName r = c.matchBranch typeName r := by
  simp [matchBranch, handler, slots, Function.comp_def]

theorem testKeywords_withoutDirectives (qualified assumed : Bool) :
    c.withoutDirectives.testKeywords qualified assumed = c.testKeywords qualified assumed := by
  unfold testKeywords
  rw [attributes_withoutDirectives, name_withoutDirectives]
  cases c.attributes with
  | nil => rfl
  | cons a others => exact attributeKeywords_withoutDirectives _ (fun _ => rfl) (a :: others)

theorem testBody_withoutDirectives (typeName : String) :
    c.withoutDirectives.testBody typeName = c.testBody typeName := by
  unfold testBody
  rw [attributes_withoutDirectives, discriminantValue_withoutDirectives]
  cases c.attributes with
  | nil => rfl
  | cons a others => simp [Function.comp_def]

@[simp] theorem testMethod_withoutDirectives (typeName : String) (qualified assumed : Bool) :
    c.withoutDirectives.testMethod typeName qualified assumed =
      c.testMethod typeName qualified assumed := by
  simp only [testMethod, testKeywords_withoutDirectives, testBody_withoutDirectives]

@[simp] theorem forwardingPart_withoutDirectives (keyword : String) :
    c.withoutDirectives.forwardingPart keyword = c.forwardingPart keyword := by
  simp [forwardingPart, handler, Function.comp_def]

end Case

/-! ### Features of algebraic types -/

section

variable {Member : Type} {strip : Member → Member}

@[simp] theorem Declaration.name_seen (d : Declaration Member) : (d.seen strip).name = d.name := rfl

@[simp] theorem Declaration.members_seen (d : Declaration Member) :
    (d.seen strip).members = d.members.map strip := rfl

@[simp] theorem Declaration.nonnullByDefault_seen (d : Declaration Member) :
    nonnullByDefault (d.seen strip).includes = nonnullByDefault d.includes :=
  nonnullByDefault_consulted d.includes

end

namespace AlgebraicType

variable (d : AlgebraicType)

theorem attributes_seen : attributes (d.seen Case.withoutDirectives) =
    d.attributes.map Attribute.withoutDirectives := by
  simp [attributes, List.flatMap_map, List.map_flatMap]

@[simp] theorem qualifies_seen : qualifies (d.seen Case.withoutDirectives) = d.qualifies := by
  unfold qualifies ValueTypes.qualifies
  rw [attributes_seen, List.any_map, Declaration.nonnullByDefault_seen]
  rfl

theorem dependencies_seen : dependencies (d.seen Case.withoutDirectives) = d.dependencies := by
  simp [dependencies, Scope.ofDeclaration_seen, attributes_seen, Function.comp_def]

theorem nameProblems_seen : nameProblems (d.seen Case.withoutDirectives) = d.nameProblems := by
  simp [nameProblems, missingNameProblems, repetitionProblems, List.filter_map, Function.comp_def]

theorem enumeration_seen : enumeration (d.seen Case.withoutDirectives) = d.enumeration := by
  simp [enumeration, Function.comp_def]

theorem instanceVariables_seen :
    instanceVariables (d.seen Case.withoutDirectives) = d.instanceVariables := by
  simp [instanceVariables, List.flatMap_map, Function.comp_def]

@[simp] theorem handlerModifiers_seen :
    handlerModifiers (d.seen Case.withoutDirectives) = d.handlerModifiers := by
  simp only [handlerModifiers, qualifies_seen]

@[simp] theorem matchParts_seen (r : MatchResult) :
    matchParts (d.seen Case.withoutDirectives) r = d.matchParts r := by
  unfold matchParts
  rw [Declaration.members_seen]
  cases d.members with
  | nil => rfl
  | cons c others => simp [Function.comp_def]

theorem matchMethod_seen (r : MatchResult) :
    matchMethod (d.seen Case.withoutDirectives) r = d.matchMethod r := by
  have hsignature : matchSignature (d.seen Case.withoutDirectives) r = d.matchSignature r := by
    simp [matchSignature, List.zipWith_map_right, Case.handlerType]
  have hbody : matchBody (d.seen Case.withoutDirectives) r = d.matchBody r := by
    simp [matchBody, Function.comp_def]
  simp only [matchMethod, hsignature, hbody]

theorem matcherFile_seen : matcherFile (d.seen Case.withoutDirectives) = d.matcherFile := by
  have hsignature : matcherSignature (d.seen Case.withoutDirectives) = d.matcherSignature := by
    simp [matcherSignature, Function.comp_def, Case.genericHandlerType]
  have hbody : matcherBody (d.seen Case.withoutDirectives) = d.matcherBody := by
    simp [matcherBody, List.zipWith_map_right]
  have hmethod : matcherMethod (d.seen Case.withoutDirectives) = d.matcherMethod := by
    simp only [matcherMethod, hsignature, hbody, qualifies_seen]
  simp only [matcherFile, hmethod, Declaration.members_seen, List.map_map, Function.comp_def,
    Case.genericHandlerType, Case.name_withoutDirectives, Case.blockType_withoutDirectives]
  rfl

theorem readsSeen_storageFeature : storageFeature.ReadsSeen Case.withoutDirectives where
  problems := nameProblems_seen
  contribution := by
    intro d
    simp only [storageFeature, dependencies_seen, enumeration_seen, instanceVariables_seen,
      Declaration.nonnullByDefault_seen]
    rfl
  rework := fun _ _ => rfl

theorem readsSeen_factoryFeature : factoryFeature.ReadsSeen Case.withoutDirectives where
  problems := fun _ => rfl
  contribution := by simp [factoryFeature, Function.comp_def]
  rework := fun _ _ => rfl

theorem readsSeen_matchingFeature (r : MatchResult) :
    (matchingFeature r).ReadsSeen Case.withoutDirectives where
  problems := fun _ => rfl
  contribution := by simp [matchingFeature, matchMethod_seen, Function.comp_def, Case.handlerType]
  rework := fun _ _ => rfl

theorem readsSeen_caseTestFeature : caseTestFeature.ReadsSeen Case.withoutDirectives where
  problems := fun _ => rfl
  contribution := by simp [caseTestFeature, Function.comp_def]
  rework := fun _ _ => rfl

theorem readsSeen_matcherFeature : matcherFeature.ReadsSeen Case.withoutDirectives where
  problems := fun _ => rfl
  contribution := by simp [matcherFeature, matcherFile_seen]
  rework := fun _ _ => rfl

theorem readsSeen_of_mem {f : Feature Case} (hf : f ∈ features) :
    f.ReadsSeen Case.withoutDirectives := by
  simp only [features, List.mem_cons, List.not_mem_nil, or_false] at hf
  rcases hf with rfl | rfl | rfl | rfl | rfl | rfl | rfl | rfl
  · exact readsSeen_storageFeature
  · exact readsSeen_factoryFeature
  · exact readsSeen_matchingFeature .void
  · exact readsSeen_matchingFeature .bool
  · exact readsSeen_matchingFeature .integer
  · exact readsSeen_matchingFeature .double
  · exact readsSeen_caseTestFeature
  · exact readsSeen_matcherFeature

end AlgebraicType

/-! ### Features of value objects -/

namespace ValueObject

theorem readsSeen_propertiesFeature : propertiesFeature.ReadsSeen Attribute.withoutDirectives where
  problems := by simp [propertiesFeature, nameProblems, Function.comp_def]
  contribution := by
    intro d
    have hdependencies : dependencies (d.seen Attribute.withoutDirectives) = dependencies d := by
      simp [dependencies, Scope.ofDeclaration_seen, Function.comp_def]
    simp only [propertiesFeature, hdependencies, Declaration.nonnullByDefault_seen,
      Declaration.members_seen, List.map_map, Function.comp_def, Attribute.property_withoutDirectives]
    rfl
  rework := fun _ _ => rfl

theorem readsSeen_initializerFeature : initializerFeature.ReadsSeen Attribute.withoutDirectives where
  problems := fun _ => rfl
  contribution := by
    intro d
    unfold initializerFeature
    simp only [Declaration.members_seen]
    cases d.members with
    | nil => rfl
    | cons a others =>
      have hkeywords := attributeKeywords_withoutDirectives ("initWith" ++ capitalized a.name)
        Attribute.argument_withoutDirectives (a :: others)
      simp only [List.map_cons] at hkeywords
      simp [initializer, initializerBody, hkeywords, Function.comp_def]
  rework := fun _ _ => rfl

end ValueObject

end ValueTypes
