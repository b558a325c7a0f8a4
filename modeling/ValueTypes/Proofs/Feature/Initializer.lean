import ValueTypes.Proofs.Feature.Storage

/-! Properties and initializer of a value object. The initializer takes one argument for each property
and stores it in the variable behind that property, in the way and with the nullability that the
property declares. -/

namespace ValueTypes

open Objc

def Objc.PropertyModifier.nullability? : PropertyModifier → Option Modifier
  | nonnull => some .nonnull
  | nullable => some .nullable
  | nullUnspecified => some .nullUnspecified
  | nonatomic => none
  | readonly => none
  | copy => none
  | strong => none
  | assign => none

def memoryModifiers : List PropertyModifier := [.copy, .strong, .assign]

/-- Property, argument and assignment of one attribute. A value is copied if it is an object of a
class that is known to be copied. -/
structure PropertyFits (a : Attribute) (p : Property) (x : Argument) (w : Store) : Prop where
  declared : p.name = a.name ∧ p.type = a.type.ref
  taken : x.name = p.name ∧ x.type = p.type
  place : w.place = "_" ++ p.name
  value : w.value = if .copy ∈ p.modifiers then "[" ++ p.name ++ " copy]" else p.name
  copy_iff : .copy ∈ p.modifiers ↔
    a.type.isObject = true ∧ (builtin? a.type.name).map (·.kind) = some (.classType true)
  strong_iff : .strong ∈ p.modifiers ↔ a.type.isObject = true ∧ w.value ≠ "[" ++ p.name ++ " copy]"
  assign_iff : .assign ∈ p.modifiers ↔ a.type.isObject = false
  memory : ∃ modifier, p.modifiers.filter (· ∈ memoryModifiers) = [modifier]
  nullability : p.modifiers.filterMap PropertyModifier.nullability? = x.modifiers ∧
    x.modifiers = a.nullability.modifier?.toList

structure InitializerFits (attributes : List Attribute) (properties : List Property) (m : Method)
    (stores : List Store) : Prop where
  code : m.code = initializerLines stores
  keywordCount : m.keywords.length = attributes.length
  storeCount : stores.length = attributes.length
  fits : ∀ (k : Nat) (a : Attribute), attributes[k]? = some a → ∃ p keyword x w,
    properties[k]? = some p ∧ m.keywords[k]? = some keyword ∧ keyword.argument = some x ∧
      stores[k]? = some w ∧ PropertyFits a p x w
  distinct : (stores.map (·.place)).Nodup

/-- The class has a property for each attribute, in order, and its only instance method is the
initializer. Without attributes there is none. -/
structure ClassFits (attributes : List Attribute) (cls : ClassModel) : Prop where
  properties : cls.properties.map (fun p => (p.name, p.type)) =
    attributes.map fun a => (a.name, a.type.ref)
  bare : attributes = [] → cls.instanceMethods = []
  initialized : attributes ≠ [] → ∃ m stores, cls.instanceMethods = [m] ∧
    InitializerFits attributes cls.properties m stores

/-! ### Modifiers of a property -/

namespace AttributeType

variable {t : AttributeType}

theorem memoryModifier_cases (t : AttributeType) :
    (t.memoryModifier = .copy ∧ t.isObject = true ∧ t.isCopied = true) ∨
    (t.memoryModifier = .strong ∧ t.isObject = true ∧ t.isCopied = false) ∨
    (t.memoryModifier = .assign ∧ t.isObject = false ∧ t.isCopied = false) := by
  unfold memoryModifier
  by_cases hcopied : t.isCopied = true
  · simp [hcopied, (isCopied_iff.mp hcopied).1]
  · by_cases hobject : t.isObject = true <;> simp [hcopied, hobject]

theorem memoryModifier_mem (t : AttributeType) : t.memoryModifier ∈ memoryModifiers := by
  rcases t.memoryModifier_cases with ⟨h, -⟩ | ⟨h, -⟩ | ⟨h, -⟩ <;> simp [h, memoryModifiers]

theorem copy_eq_memoryModifier : .copy = t.memoryModifier ↔ t.isCopied = true := by
  rcases t.memoryModifier_cases with ⟨h, -, hc⟩ | ⟨h, -, hc⟩ | ⟨h, -, hc⟩ <;> simp [h, hc]

theorem strong_eq_memoryModifier :
    .strong = t.memoryModifier ↔ t.isObject = true ∧ t.isCopied = false := by
  rcases t.memoryModifier_cases with ⟨h, ho, hc⟩ | ⟨h, ho, hc⟩ | ⟨h, ho, hc⟩ <;> simp [h, ho, hc]

theorem assign_eq_memoryModifier : .assign = t.memoryModifier ↔ t.isObject = false := by
  rcases t.memoryModifier_cases with ⟨h, ho, -⟩ | ⟨h, ho, -⟩ | ⟨h, ho, -⟩ <;> simp [h, ho]

end AttributeType

namespace Attribute

theorem filter_memoryModifiers (a : Attribute) :
    a.property.modifiers.filter (· ∈ memoryModifiers) = [a.type.memoryModifier] := by
  have hnone : a.nullability.propertyModifier?.toList.filter (· ∈ memoryModifiers) = [] := by
    cases a.nullability <;> rfl
  have hmemory := a.type.memoryModifier_mem
  rw [property, List.filter_append, hnone, List.append_nil, List.filter_cons_of_neg (by decide),
    List.filter_cons_of_neg (by decide), List.filter_cons_of_pos (by simpa using hmemory),
    List.filter_nil]

theorem mem_property_modifiers (a : Attribute) {m : PropertyModifier} (hm : m ∈ memoryModifiers) :
    m ∈ a.property.modifiers ↔ m = a.type.memoryModifier := by
  rw [← List.mem_singleton, ← filter_memoryModifiers, List.mem_filter]
  simp [hm]

theorem filterMap_nullability (a : Attribute) :
    a.property.modifiers.filterMap PropertyModifier.nullability? = a.modifiers := by
  have hnone : ∀ m ∈ memoryModifiers, m.nullability? = none := by decide
  have hstated : a.nullability.propertyModifier?.toList.filterMap PropertyModifier.nullability? =
      a.nullability.modifier?.toList := by
    cases a.nullability <;> rfl
  rw [property, List.filterMap_append, hstated, List.filterMap_cons_none rfl,
    List.filterMap_cons_none rfl, List.filterMap_cons_none (hnone _ a.type.memoryModifier_mem)]
  rfl

theorem value_store (a : Attribute) :
    a.store.value = if a.type.isCopied then "[" ++ a.name ++ " copy]" else a.name :=
  a.text_stored a.name

theorem value_store_ne (a : Attribute) :
    a.store.value ≠ "[" ++ a.name ++ " copy]" ↔ a.type.isCopied = false := by
  have hlonger : a.name ≠ "[" ++ a.name ++ " copy]" := by
    intro h
    have hlength := congrArg String.length h
    rw [String.length_append, String.length_append] at hlength
    have hcopy : " copy]".length = 6 := rfl
    omega
  rw [value_store]
  by_cases hcopied : a.type.isCopied = true <;> simp [hcopied, hlonger]

theorem propertyFits (a : Attribute) : PropertyFits a a.property a.argument a.store := by
  have hcopy : .copy ∈ a.property.modifiers ↔ a.type.isCopied = true :=
    (a.mem_property_modifiers (by decide)).trans AttributeType.copy_eq_memoryModifier
  have hstrong : .strong ∈ a.property.modifiers ↔ a.type.isObject = true ∧ a.type.isCopied = false :=
    (a.mem_property_modifiers (by decide)).trans AttributeType.strong_eq_memoryModifier
  have hassign : .assign ∈ a.property.modifiers ↔ a.type.isObject = false :=
    (a.mem_property_modifiers (by decide)).trans AttributeType.assign_eq_memoryModifier
  have hvalue : a.store.value =
      if .copy ∈ a.property.modifiers then "[" ++ a.name ++ " copy]" else a.name := by
    simp only [hcopy]
    exact a.value_store
  exact
    { declared := ⟨rfl, rfl⟩
      taken := ⟨rfl, rfl⟩
      place := rfl
      value := hvalue
      copy_iff := hcopy.trans AttributeType.isCopied_iff
      strong_iff := hstrong.trans (and_congr_right fun _ => a.value_store_ne.symm)
      assign_iff := hassign
      memory := ⟨_, a.filter_memoryModifiers⟩
      nullability := ⟨a.filterMap_nullability, rfl⟩ }

end Attribute

/-! ### The class -/

theorem nodup_places {attributes : List Attribute} (h : (attributes.map (·.name)).Nodup) :
    ((attributes.map Attribute.store).map (·.place)).Nodup := by
  have hplaces : (attributes.map Attribute.store).map (·.place) =
      (attributes.map (·.name)).map ("_" ++ ·) := by
    simp only [List.map_map]
    rfl
  rw [hplaces]
  exact h.map (append_injective "_")

theorem initializerFits {first : Attribute} {others : List Attribute}
    (h : ((first :: others).map (·.name)).Nodup) :
    InitializerFits (first :: others) ((first :: others).map Attribute.property)
      (initializer first others) ((first :: others).map Attribute.store) where
  code := code_initializer first others
  keywordCount := by simp [initializer, attributeKeywords]
  storeCount := List.length_map ..
  fits := by
    intro k a hk
    have harguments : ((initializer first others).keywords.map (·.argument))[k]? =
        some (some a.argument) := by
      rw [initializer, arguments_attributeKeywords, List.getElem?_map, hk, Option.map_some]
    rw [List.getElem?_map] at harguments
    obtain ⟨keyword, hkeyword, hargument⟩ := Option.map_eq_some_iff.mp harguments
    refine ⟨a.property, keyword, a.argument, a.store, ?_, hkeyword, hargument, ?_, a.propertyFits⟩
    · rw [List.getElem?_map, hk, Option.map_some]
    · rw [List.getElem?_map, hk, Option.map_some]
  distinct := nodup_places h

namespace ValueObject

variable {d : ValueObject}

theorem total_properties : d.total.properties = d.members.map Attribute.property := by
  rw [total, contributions_eq_flatMap (·.properties) rfl fun _ _ => rfl]
  simp [features, propertiesFeature, initializerFeature]

theorem total_instanceMethods : d.total.instanceMethods = match d.members with
    | [] => []
    | first :: others => [initializer first others] := by
  rw [total, contributions_eq_flatMap (·.instanceMethods) rfl fun _ _ => rfl]
  exact List.append_nil _

theorem classFits (h : (d.members.map (·.name)).Nodup) :
    ClassFits d.members (d.total.mainClass d.name) where
  properties := by
    rw [Contribution.mainClass, total_properties, List.map_map]
    rfl
  bare hnone := by rw [Contribution.mainClass, total_instanceMethods, hnone]
  initialized hsome := by
    obtain ⟨first, others, hmembers⟩ := List.exists_cons_of_ne_nil hsome
    rw [hmembers] at h
    rw [Contribution.mainClass, total_instanceMethods, total_properties, hmembers]
    exact ⟨_, _, rfl, initializerFits h⟩

theorem exists_classFits {settings : Settings} {files : List File}
    (h : generate settings d = .ok files) :
    ∃ main cls, files = [main] ∧ main.classes = [cls] ∧ ClassFits d.members cls := by
  obtain ⟨hnodup, rfl⟩ := (generate_eq_ok rfl).mp h
  exact ⟨_, _, rfl, rfl, classFits hnodup⟩

def person : ValueObject :=
  { name := "Person", comments := [], directives := ∅, includes := [], excludes := []
    libraryName := none, typeHints := []
    members := [⟨"name", [], ∅, .nonnull, ⟨"NSString", "NSString*", none, none, none, none, []⟩⟩,
      ⟨"home", [], ∅, .nullable, ⟨"Address", "Address*", none, none, none, none, []⟩⟩,
      ⟨"age", [], ∅, .inherited, ⟨"NSUInteger", "NSUInteger", none, none, none, none, []⟩⟩,
      ⟨"tag", [], ∅, .unspecified, ⟨"id", "id", none, none, none, none, []⟩⟩] }

theorem exists_classFits_person : ∃ main cls, generate {} person = .ok [main] ∧
    main.classes = [cls] ∧ ClassFits person.members cls ∧
    cls.properties.map (·.modifiers) = [[.nonatomic, .readonly, .copy, .nonnull],
      [.nonatomic, .readonly, .strong, .nullable], [.nonatomic, .readonly, .assign],
      [.nonatomic, .readonly, .strong, .nullUnspecified]] := by
  have h : generate {} person = .ok [(total person).mainFile "Person"] :=
    (generate_eq_ok rfl).mpr ⟨by decide, rfl⟩
  obtain ⟨main, cls, hfiles, hclasses, hfits⟩ := exists_classFits h
  obtain rfl := List.singleton_inj.mp hfiles
  obtain rfl := List.singleton_inj.mp hclasses
  exact ⟨_, _, h, rfl, hfits, by decide +kernel⟩

end ValueObject

end ValueTypes
