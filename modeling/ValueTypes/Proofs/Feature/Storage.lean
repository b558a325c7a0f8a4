import ValueTypes.Proofs.Feature.Matching

/-! Stored values are written and read alike. The class has one variable for each attribute of each
case; factories, case tests and match methods go through the variables of a case in the order of its
attributes, and tell the case by the same value of the enumeration. -/

namespace ValueTypes

open Objc

namespace Case

/-- The attributes of a case, with the names `v 0`, `v 1` and so on. -/
def row (c : Case) (v : Nat → String) : List (Attribute × String) :=
  c.attributes.zipIdx.map fun (a, i) => (a, v i)

/-- What the keywords of a method on the case take: something for each attribute in turn, or nothing
with a bare keyword. -/
def taken {α : Type} (c : Case) (argument : Attribute → α) : List (Option α) :=
  if c.attributes = [] then [none] else c.attributes.map fun a => some (argument a)

end Case

/-- The factory takes the attributes of a case and stores each of them under its name, and no name is
written to twice. -/
structure FactoryFits (typeName : String) (c : Case) (value : String) (v : Nat → String)
    (m : Method) : Prop where
  takes : m.keywords.map (fun k => k.argument.map fun x => (x.name, x.type)) =
    c.taken fun a => (a.name, a.type.ref)
  code : m.code = factoryLines typeName discriminant value ((c.row v).map fun (a, name) => ⟨name,
    if a.type.isObject = true ∧ (builtin? a.type.name).map (·.kind) = some (.classType true) then
      "[" ++ a.name ++ " copy]" else a.name⟩)
  once : (discriminant :: (c.row v).map Prod.snd).Nodup

structure TestFits (c : Case) (value : String) (v : Nat → String) (m : Method) : Prop where
  named : ∃ keyword rest, m.keywords.head? = some keyword ∧ keyword.name = "is" ++ c.name ++ rest
  takes : m.keywords.map (fun k => k.argument.map (·.name)) = c.taken (·.name)
  code : m.code = testLines discriminant value ((c.row v).map fun (a, name) => ⟨a.name, name⟩)

def MatchReads (d : AlgebraicType) (enumeration : Enumeration) (v : Nat → Nat → String)
    (r : MatchResult) (m : Method) : Prop :=
  ∃ arms, m.returnType = r.returnType ∧ m.code = matchLines discriminant r.typeAndDefault? arms ∧
    arms.map (·.label) = enumeration.values ∧ ∀ (k : Nat) (c : Case), d.members[k]? = some c →
      ∃ arm, arms[k]? = some arm ∧ arm.values = (c.row (v k)).map Prod.snd

def AlgebraicType.matchResults (d : AlgebraicType) (tags : List Tag) : List MatchResult :=
  if d.members = [] then [] else
    [.void, .bool, .integer, .double].filter fun r : MatchResult => r.tag ∈ tags

/-- The class keeps attribute `i` of case `k` under the name `v k i`, and all its methods agree on
that. The match methods stand in front of the case tests. -/
structure StorageFits (d : AlgebraicType) (tags : List Tag) (cls : ClassModel)
    (enumeration : Enumeration) (v : Nat → Nat → String) (matchers tests : List Method) : Prop where
  stored : cls.instanceVariables.map (fun x => (x.name, x.type)) =
    (discriminant, .named enumeration.name) ::
      d.members.zipIdx.flatMap fun (c, k) => (c.row (v k)).map fun (a, name) => (name, a.type.ref)
  valueCount : enumeration.values.length = d.members.length
  factoryCount : cls.classMethods.length = d.members.length
  methods : cls.instanceMethods = matchers ++ tests
  testCount : tests.length = d.members.length
  cases : ∀ (k : Nat) (c : Case), d.members[k]? = some c → ∃ value factory test,
    enumeration.values[k]? = some value ∧ cls.classMethods[k]? = some factory ∧
      tests[k]? = some test ∧ FactoryFits d.name c value (v k) factory ∧ TestFits c value (v k) test
  matching : List.Forall₂ (MatchReads d enumeration v) (d.matchResults tags) matchers

def StorageAgrees (d : AlgebraicType) (tags : List Tag) (files : List File) : Prop :=
  ∃ main extra cls enumeration v matchers tests, files = main :: extra ∧ main.classes = [cls] ∧
    main.enumerations = [enumeration] ∧ StorageFits d tags cls enumeration v matchers tests

structure AlgebraicType.StoresOnce (d : AlgebraicType) : Prop where
  discriminant : ∀ a, .single a ∈ d.members → uncapitalized a.name ≠ "subtype"
  attributes : ∀ c ∈ d.members, (c.attributes.map fun a => uncapitalized a.name).Nodup

def joinedName (name : String) (a : Attribute) : String :=
  uncapitalized name ++ "_" ++ uncapitalized a.name

theorem joinedName_ne_subtype (name : String) (a : Attribute) : joinedName name a ≠ "subtype" := by
  intro h
  have hmem : '_' ∈ (joinedName name a).toList := by simp [joinedName]
  rw [h] at hmem
  exact absurd hmem (by decide)

/-! ### Keywords -/

theorem arguments_attributeKeywords (first : String) (argument : Attribute → Argument)
    (as : List Attribute) :
    (attributeKeywords first argument as).map (·.argument) = as.map fun a => some (argument a) := by
  cases as with
  | nil => rfl
  | cons a others => simp [attributeKeywords]

namespace Case

variable {α : Type} {c : Case}

theorem takes_of_arguments {keywords : List Keyword} {argument : Attribute → Argument}
    (h : keywords.map (·.argument) = c.taken argument) (f : Argument → α) :
    (keywords.map fun k => k.argument.map f) = c.taken fun a => f (argument a) := by
  have hmap : (keywords.map fun k => k.argument.map f) =
      (keywords.map (·.argument)).map (Option.map f) := by
    rw [List.map_map]
    rfl
  rw [hmap, h]
  unfold taken
  split <;> simp

theorem arguments_factoryKeywords (c : Case) :
    c.factoryKeywords.map (·.argument) = c.taken Attribute.argument := by
  cases c with
  | single payload => rfl
  | collection name comments as =>
    cases as with
    | nil => rfl
    | cons a others => exact arguments_attributeKeywords _ _ (a :: others)

theorem arguments_testKeywords (c : Case) (qualified assumed : Bool) :
    (c.testKeywords qualified assumed).map (·.argument) =
      c.taken fun a => ⟨a.name, [], a.outType qualified assumed⟩ := by
  unfold testKeywords taken
  cases c.attributes with
  | nil => rfl
  | cons a others => exact arguments_attributeKeywords ..

theorem head?_testKeywords (c : Case) (qualified assumed : Bool) :
    ∃ keyword rest, (c.testKeywords qualified assumed).head? = some keyword ∧
      keyword.name = "is" ++ c.name ++ rest := by
  unfold testKeywords
  cases c.attributes with
  | nil => exact ⟨_, "", rfl, by simp⟩
  | cons a others => exact ⟨_, "With" ++ capitalized a.name, rfl, String.append_assoc ..⟩

/-! ### Names of slots -/

def slotNames (c : Case) : List String := c.attributes.map c.slotName

theorem subtype_mem_slotNames {c : Case} :
    "subtype" ∈ c.slotNames ↔ ∃ a, c = .single a ∧ uncapitalized a.name = "subtype" := by
  cases c with
  | collection name comments as =>
    have hne : "subtype" ∉ slotNames (.collection name comments as) := by
      intro h
      obtain ⟨a, -, ha⟩ := List.mem_map.mp h
      exact joinedName_ne_subtype name a ha
    simp [hne]
  | single payload => simp [slotNames, attributes, slotName, eq_comm]

theorem nodup_slotNames {c : Case} :
    c.slotNames.Nodup ↔ (c.attributes.map fun a => uncapitalized a.name).Nodup := by
  cases c with
  | collection name comments as =>
    have hnames : slotNames (.collection name comments as) =
        (as.map fun a => uncapitalized a.name).map (uncapitalized name ++ "_" ++ ·) := by
      rw [List.map_map]
      rfl
    rw [hnames, List.nodup_map_iff (append_injective _)]
    rfl
  | single payload => simp [slotNames, attributes]

theorem nodup_slots : (discriminant :: c.slots).Nodup ↔
    (∀ a, c = .single a → uncapitalized a.name ≠ "subtype") ∧
      (c.attributes.map fun a => uncapitalized a.name).Nodup := by
  have hnames : discriminant :: c.slots = ("subtype" :: c.slotNames).map ("_" ++ ·) := by
    rw [List.map_cons, slotNames, List.map_map]
    rfl
  rw [hnames, List.nodup_map_iff (append_injective "_"), List.nodup_cons, subtype_mem_slotNames, nodup_slotNames]
  simp

/-! ### Stores -/

theorem stores_eq (c : Case) : c.stores = c.attributes.map fun a => ⟨c.slot a,
    if a.type.isObject = true ∧ (builtin? a.type.name).map (·.kind) = some (.classType true) then
      "[" ++ a.name ++ " copy]" else a.name⟩ := by
  simp only [stores, Attribute.text_stored, AttributeType.isCopied_iff]

theorem map_attributes {α : Type} (c : Case) (f : Attribute → α) :
    c.attributes.map f = c.attributes.zipIdx.map fun x => f x.1 := by
  conv_lhs => rw [← List.zipIdx_map_fst 0 c.attributes, List.map_map]
  rfl

theorem map_snd_row_of_code {typeName label : String} {v : Nat → String} {value : Attribute → String}
    (hstores : c.stores = c.attributes.map fun a => ⟨c.slot a, value a⟩)
    (h : (c.factory typeName).code = factoryLines typeName discriminant label
      ((c.row v).map fun x => ⟨x.2, value x.1⟩)) : (c.row v).map Prod.snd = c.slots := by
  rw [code_factory, factoryLines, factoryLines] at h
  have hlines := (List.append_inj (List.append_cancel_right h) rfl).2
  rw [hstores, List.map_map, map_attributes, row, List.map_map, List.map_map, List.map_inj_left]
    at hlines
  rw [row, List.map_map, slots, map_attributes]
  apply List.map_congr_left
  intro x hx
  have hline : "object->" ++ c.slot x.1 ++ " = " ++ value x.1 ++ ";" =
      "object->" ++ v x.2 ++ " = " ++ value x.1 ++ ";" := hlines x hx
  simpa using hline.symm

end Case

namespace AlgebraicType

variable {d : AlgebraicType}

def variableName (d : AlgebraicType) (k i : Nat) : String :=
  ((d.members[k]?.bind fun c => c.slots[i]?).getD "")

theorem row_variableName {k : Nat} {c : Case} (hk : d.members[k]? = some c) :
    c.row (d.variableName k) = c.attributes.map fun a => (a, c.slot a) := by
  unfold Case.row
  apply List.ext_getElem?
  intro i
  cases hi : c.attributes[i]? with
  | none => simp [hi]
  | some a => simp [hi, variableName, hk, Case.slots]

theorem getElem?_map_members {β : Type} {k : Nat} {c : Case} (hk : d.members[k]? = some c)
    (f : Case → β) : (d.members.map f)[k]? = some (f c) := by
  rw [List.getElem?_map, hk, Option.map_some]

theorem factoryFits {k : Nat} {c : Case} (hk : d.members[k]? = some c) (honce : d.StoresOnce) :
    FactoryFits d.name c (c.discriminantValue d.name) (d.variableName k) (c.factory d.name) where
  takes := Case.takes_of_arguments c.arguments_factoryKeywords fun x => (x.name, x.type)
  code := by
    rw [c.code_factory, c.stores_eq, row_variableName hk, List.map_map]
    rfl
  once := by
    have hc := List.mem_of_getElem? hk
    rw [row_variableName hk, List.map_map]
    exact Case.nodup_slots.mpr ⟨fun a ha => honce.discriminant a (ha ▸ hc), honce.attributes c hc⟩

theorem testFits {k : Nat} {c : Case} (hk : d.members[k]? = some c) (qualified assumed : Bool) :
    TestFits c (c.discriminantValue d.name) (d.variableName k)
      (c.testMethod d.name qualified assumed) where
  named := c.head?_testKeywords qualified assumed
  takes := Case.takes_of_arguments (c.arguments_testKeywords qualified assumed) (·.name)
  code := by
    rw [c.code_testMethod, row_variableName hk, List.map_map]
    rfl

theorem matchReads (d : AlgebraicType) (r : MatchResult) :
    MatchReads d d.enumeration d.variableName r (d.matchMethod r) := by
  refine ⟨_, rfl, code_matchMethod d r, labels_arms d, fun k c hk => ?_⟩
  refine ⟨c.arm d.name, getElem?_map_members hk _, ?_⟩
  rw [row_variableName hk, List.map_map]
  rfl

/-! ### The class -/

theorem stored_instanceVariables (d : AlgebraicType) :
    d.instanceVariables.map (fun x => (x.name, x.type)) = (discriminant, .named d.enumeration.name) ::
      d.members.zipIdx.flatMap fun (c, k) =>
        (c.row (d.variableName k)).map fun (a, name) => (name, a.type.ref) := by
  have hrows : (d.members.zipIdx.flatMap fun (c, k) =>
      (c.row (d.variableName k)).map fun (a, name) => (name, a.type.ref)) =
      d.members.zipIdx.flatMap fun x => x.1.attributes.map fun a => (x.1.slot a, a.type.ref) := by
    apply List.flatMap_congr
    intro x hx
    dsimp only
    rw [row_variableName (List.mem_zipIdx_iff_getElem?.mp hx), List.map_map]
    rfl
  have hcases : (d.members.zipIdx.flatMap fun x => x.1.attributes.map fun a =>
      (x.1.slot a, a.type.ref)) = d.members.flatMap fun c => c.attributes.map fun a =>
        (c.slot a, a.type.ref) := by
    rw [← List.flatMap_map Prod.fst fun c : Case => c.attributes.map fun a => (c.slot a, a.type.ref),
      List.zipIdx_map_fst]
  rw [hrows, hcases, instanceVariables, List.map_cons, List.map_flatMap]
  simp only [List.map_map]
  rfl

theorem total_classMethods : d.total.classMethods = d.members.map (·.factory d.name) := by
  rw [total, contributions_eq_flatMap (·.classMethods) rfl fun _ _ => rfl]
  exact flatMap_eq_of_unique (fun f => (f.contribution d).classMethods) [storageFeature] rfl
    (by simp [storageFeature, matchingFeature, caseTestFeature, matcherFeature])

theorem total_instanceMethods (d : AlgebraicType) : d.total.instanceMethods =
    (d.matchResults d.includes).map d.matchMethod ++
      if "RMCaseMatching" ∈ d.includes then
        d.members.map fun c => c.testMethod d.name d.qualifies (nonnullByDefault d.includes)
      else [] := by
  rw [total, contributions_eq_flatMap (·.instanceMethods) rfl fun _ _ => rfl, flatMap_features,
    matchResults]
  by_cases hmembers : d.members = []
  · simp [storageFeature, factoryFeature, matchingFeature, caseTestFeature, matcherFeature, hmembers]
  · simp [storageFeature, factoryFeature, matchingFeature, caseTestFeature, matcherFeature, hmembers,
      List.map_eq_flatMap]

theorem storageFits (htag : "RMCaseMatching" ∈ d.includes) (honce : d.StoresOnce) :
    StorageFits d d.includes (d.total.mainClass d.name) d.enumeration d.variableName
      ((d.matchResults d.includes).map d.matchMethod)
      (d.members.map fun c => c.testMethod d.name d.qualifies (nonnullByDefault d.includes)) where
  stored := by
    rw [Contribution.mainClass, total_instanceVariables]
    exact stored_instanceVariables d
  valueCount := List.length_map ..
  factoryCount := by rw [Contribution.mainClass, total_classMethods, List.length_map]
  methods := (total_instanceMethods d).trans (by rw [if_pos htag])
  testCount := List.length_map ..
  cases := by
    intro k c hk
    refine ⟨_, _, _, getElem?_map_members hk _, ?_, getElem?_map_members hk _, factoryFits hk honce,
      testFits hk d.qualifies (nonnullByDefault d.includes)⟩
    rw [Contribution.mainClass, total_classMethods]
    exact getElem?_map_members hk _
  matching := List.forall₂_map_right_iff.mpr (List.forall₂_same.mpr fun r _ => matchReads d r)

theorem nodup_slots_of_storageFits {tags : List Tag} {enumeration : Enumeration}
    {v : Nat → Nat → String} {matchers tests : List Method}
    (h : StorageFits d tags (d.total.mainClass d.name) enumeration v matchers tests) {c : Case}
    (hc : c ∈ d.members) : (discriminant :: c.slots).Nodup := by
  obtain ⟨k, hk⟩ := List.getElem?_of_mem hc
  obtain ⟨value, factory, test, -, hfactory, -, hstores, -⟩ := h.cases k c hk
  have hmade : factory = c.factory d.name := by
    rw [Contribution.mainClass, total_classMethods, getElem?_map_members hk] at hfactory
    exact (Option.some.inj hfactory).symm
  have hrow : (c.row (v k)).map Prod.snd = c.slots :=
    Case.map_snd_row_of_code c.stores_eq (hmade ▸ hstores.code)
  exact hrow ▸ hstores.once

theorem storesOnce_of_storageAgrees {settings : Settings} {files : List File}
    (h : generate settings d = .ok files) (hagrees : StorageAgrees d
      (tagsInForce defaultTags settings d.includes d.excludes) files) : d.StoresOnce := by
  obtain ⟨-, rfl⟩ := (generate_eq_ok rfl).mp h
  obtain ⟨main, extra, cls, enumeration, v, matchers, tests, hfiles, hclasses, -, hfits⟩ := hagrees
  obtain ⟨rfl, rfl⟩ := List.cons.inj hfiles
  obtain rfl := List.singleton_inj.mp hclasses
  have honce : ∀ c ∈ d.members, (discriminant :: c.slots).Nodup := fun c hc =>
    nodup_slots_of_storageFits (d := d.withTagsInForce defaultTags settings) { hfits with } hc
  exact
    { discriminant := fun a ha => (Case.nodup_slots.mp (honce _ ha)).1 a rfl
      attributes := fun c hc => (Case.nodup_slots.mp (honce c hc)).2 }

/-- Whenever the generation of a type with case tests succeeds, there are names under which factories
store the attributes, each once, and under which case tests and match methods find them, exactly if the
declaration gives every factory distinct names to store under. -/
theorem storageAgrees_iff {settings : Settings} {files : List File}
    (h : generate settings d = .ok files)
    (htag : "RMCaseMatching" ∈ tagsInForce defaultTags settings d.includes d.excludes) :
    StorageAgrees d (tagsInForce defaultTags settings d.includes d.excludes) files ↔
      d.StoresOnce := by
  refine ⟨storesOnce_of_storageAgrees h, fun honce => ?_⟩
  obtain ⟨-, rfl⟩ := (generate_eq_ok rfl).mp h
  have hfits := storageFits (d := d.withTagsInForce defaultTags settings) htag
    ⟨honce.discriminant, honce.attributes⟩
  exact ⟨_, _, _, _, _, _, _, rfl, rfl, total_enumerations, { hfits with }⟩

def reply : AlgebraicType :=
  let number : AttributeType := ⟨"NSInteger", "NSInteger", none, none, none, none, []⟩
  let text : AttributeType := ⟨"NSString", "NSString*", none, none, none, none, []⟩
  { name := "Reply", comments := [], directives := ∅, includes := ["RMCaseMatching"]
    excludes := ["RMDoubleMatching"], libraryName := none, typeHints := []
    members := [.collection "Pending" [] [], .collection "Failure" [] [⟨"code", [], ∅, .inherited,
      number⟩, ⟨"reason", [], ∅, .nullable, text⟩], .single ⟨"text", [], ∅, .nonnull, text⟩] }

theorem storageAgrees_iff_reply : ∃ files, generate {} reply = .ok files ∧
    "RMCaseMatching" ∈ tagsInForce defaultTags {} reply.includes reply.excludes ∧ reply.StoresOnce ∧
    StorageAgrees reply (tagsInForce defaultTags {} reply.includes reply.excludes) files := by
  have h : generate {} reply = .ok [_] := (generate_eq_ok rfl).mpr ⟨by decide, rfl⟩
  have hslots : ∀ c ∈ reply.members, "subtype" ∉ c.slotNames := by decide +kernel
  have honce : reply.StoresOnce :=
    { discriminant := fun a ha hname =>
        hslots _ ha (Case.subtype_mem_slotNames.mpr ⟨a, rfl, hname⟩)
      attributes := by decide +kernel }
  exact ⟨_, h, by decide, honce, (storageAgrees_iff h (by decide)).mpr honce⟩

def payloadSubtype : AlgebraicType :=
  let number : AttributeType := ⟨"NSUInteger", "NSUInteger", none, none, none, none, []⟩
  { name := "Shape", comments := [], directives := ∅, includes := [], excludes := []
    libraryName := none, typeHints := [], members := [.single ⟨"subtype", [], ∅, .inherited, number⟩] }

def fullTwice : AlgebraicType :=
  let flag : AttributeType := ⟨"BOOL", "BOOL", none, none, none, none, []⟩
  { name := "Shape", comments := [], directives := ∅, includes := [], excludes := []
    libraryName := none, typeHints := []
    members := [.collection "Box" [] [⟨"full", [], ∅, .inherited, flag⟩,
      ⟨"full", [], ∅, .inherited, flag⟩]] }

/-- The discriminant is overwritten by an attribute that is called like it, and an attribute that is
repeated is stored twice. -/
theorem not_storageAgrees :
    (∃ files, generate {} payloadSubtype = .ok files ∧
      "RMCaseMatching" ∈ tagsInForce defaultTags {} payloadSubtype.includes payloadSubtype.excludes ∧
      ¬ StorageAgrees payloadSubtype
        (tagsInForce defaultTags {} payloadSubtype.includes payloadSubtype.excludes) files) ∧
    ∃ files, generate {} fullTwice = .ok files ∧
      "RMCaseMatching" ∈ tagsInForce defaultTags {} fullTwice.includes fullTwice.excludes ∧
      ¬ StorageAgrees fullTwice
        (tagsInForce defaultTags {} fullTwice.includes fullTwice.excludes) files := by
  constructor
  · have h : generate {} payloadSubtype = .ok [_] := (generate_eq_ok rfl).mpr ⟨by decide, rfl⟩
    refine ⟨_, h, by decide, fun hagrees => ?_⟩
    have honce := storesOnce_of_storageAgrees h hagrees
    exact honce.discriminant _ List.mem_cons_self (by decide +kernel)
  · have h : generate {} fullTwice = .ok [_] := (generate_eq_ok rfl).mpr ⟨by decide, rfl⟩
    refine ⟨_, h, by decide, fun hagrees => ?_⟩
    have honce := storesOnce_of_storageAgrees h hagrees
    exact absurd (honce.attributes _ List.mem_cons_self) (by decide +kernel)

end AlgebraicType

end ValueTypes
